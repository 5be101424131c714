import Mathlib.Data.List.Nodup
import ResultCursor.Peer.MemoryServer

/-! What the server in memory holds: the documents of its collections and its open cursors. Most of
what happens at the server leaves the documents as they are and takes cursors away at most. -/

namespace ResultCursor.Peer.MemoryServer

variable {s t u : MemoryServer} {id : Int64} {c : OpenCursor}

/-! ### Documents -/

theorem lookup_overwrite (cs : List (String × List Document)) (ns : String) (ds : List Document)
    (other : String) :
    (cs.map fun c => if c.1 = ns then (ns, ds) else c).lookup other =
      if other = ns then (cs.lookup ns).map fun _ => ds else cs.lookup other := by
  induction cs with
  | nil => simp
  | cons c cs ih =>
    obtain ⟨key, found⟩ := c
    by_cases ho : other = ns
    · subst ho
      by_cases hk : key = other
      · simp [hk]
      · have apart : (other == key) = false := beq_eq_false_iff_ne.mpr (Ne.symm hk)
        simp [List.lookup_cons, hk, apart, ih]
    · by_cases hk : key = ns
      · subst hk
        simp [List.lookup_cons, beq_eq_false_iff_ne.mpr ho, ho, ih]
      · simp only [List.map_cons, hk, if_false, List.lookup_cons, ih, ho]

theorem lookup_setDocuments (cs : List (String × List Document)) (ns : String)
    (ds : List Document) (other : String) :
    (setDocuments cs ns ds).lookup other = if other = ns then some ds else cs.lookup other := by
  unfold setDocuments
  by_cases known : (cs.lookup ns).isSome = true
  · obtain ⟨old, found⟩ := Option.isSome_iff_exists.mp known
    rw [if_pos known, lookup_overwrite, found, Option.map_some]
  · have absent : cs.lookup ns = none := Option.not_isSome_iff_eq_none.mp known
    rw [if_neg known, List.lookup_append]
    by_cases ho : other = ns
    · simp [ho, absent]
    · simp [ho, List.lookup_cons, beq_eq_false_iff_ne.mpr ho]

theorem documents_of_collections (h : t.collections = s.collections) (ns : String) :
    t.documents ns = s.documents ns := by
  rw [documents, documents, h]

theorem grows_of_collections (h : t.collections = s.collections) (ns : String) :
    s.documents ns <+: t.documents ns :=
  ⟨[], (List.append_nil _).trans (documents_of_collections h ns).symm⟩

/-- New documents stand behind those that are there. Other collections stay as they are. -/
theorem documents_insert (s : MemoryServer) (ns : String) (n : Nat) (other : String) :
    (s.insert ns n).documents other =
      if other = ns then s.documents ns ++ numberedFrom (s.documents ns).length n
      else s.documents other := by
  unfold documents insert
  rw [lookup_setDocuments]
  split <;> rfl

theorem documents_grow (s : MemoryServer) (ns : String) (n : Nat) (other : String) :
    s.documents other <+: (s.insert ns n).documents other := by
  rw [documents_insert]
  split
  · next same =>
    rw [same]
    exact List.prefix_append _ _
  · exact List.prefix_rfl

/-! ### Open cursors -/

theorem mem_of_cursor? (found : s.cursor? id = some c) : c ∈ s.cursors ∧ c.id = id :=
  ⟨List.mem_of_find?_eq_some found, by simpa using List.find?_some found⟩

theorem cursor?_removeCursor (s : MemoryServer) (id other : Int64) :
    (s.removeCursor id).cursor? other = if other = id then none else s.cursor? other := by
  unfold cursor? removeCursor
  rw [List.find?_filter]
  split
  · next same =>
    subst same
    simp
  · next differs =>
    congr 1
    funext c
    by_cases hc : c.id = other
    · simp [hc, differs]
    · simp [hc]

theorem cursor?_moveTo (s : MemoryServer) (id : Int64) (position : Nat) (other : Int64) :
    (s.moveTo id position).cursor? other =
      (s.cursor? other).map fun c => if c.id = id then { c with position } else c := by
  unfold cursor? moveTo
  rw [List.find?_map]
  congr 2
  funext c
  by_cases hc : c.id = id <;> simp [hc]

theorem ids_moveTo (s : MemoryServer) (id : Int64) (position : Nat) :
    (s.moveTo id position).cursors.map (·.id) = s.cursors.map (·.id) := by
  simp only [moveTo, List.map_map]
  refine List.map_congr_left fun c _ => ?_
  by_cases hc : c.id = id <;> simp [hc]

theorem cursor?_of_cursors (h : t.cursors = s.cursors) (id : Int64) :
    t.cursor? id = s.cursor? id := by
  rw [cursor?, cursor?, h]

/-- Cursors that differ have different numbers. -/
def Distinct (s : MemoryServer) : Prop := (s.cursors.map (·.id)).Nodup

/-! ### What stays -/

/-- The documents stay, and no cursor changes or is added. -/
structure Keeps (s t : MemoryServer) : Prop where
  collections : t.collections = s.collections
  opened : t.opened = s.opened
  cursors : t.cursors.Sublist s.cursors

namespace Keeps

theorem refl (s : MemoryServer) : s.Keeps s := ⟨rfl, rfl, List.Sublist.refl _⟩

theorem trans (h : s.Keeps t) (k : t.Keeps u) : s.Keeps u :=
  ⟨k.collections.trans h.collections, k.opened.trans h.opened, k.cursors.trans h.cursors⟩

end Keeps

theorem removeCursor_keeps (s : MemoryServer) (id : Int64) : s.Keeps (s.removeCursor id) :=
  ⟨rfl, rfl, List.filter_sublist⟩

theorem faultFailure_keeps (s : MemoryServer) (command : Command) (f : Fault) :
    s.Keeps (s.faultFailure command f).1 := by
  cases f with
  | notFound => exact s.removeCursor_keeps _
  | _ => exact .refl s

theorem killOne_keeps (s : MemoryServer) (killed missing : List Bson) (id : Int64) :
    s.Keeps (s.killOne killed missing id).1 := by
  unfold killOne
  split
  · exact s.removeCursor_keeps id
  · exact .refl s

theorem killAll_keeps (s : MemoryServer) (killed missing ids : List Bson) :
    s.Keeps (s.killAll killed missing ids).1 := by
  fun_induction killAll s killed missing ids with
  | case1 s killed missing => exact .refl s
  | case2 s killed missing id rest t k m one ih =>
    have first := s.killOne_keeps killed missing id
    rw [one] at first
    exact first.trans ih
  | case3 s killed missing v rest other ih => exact ih

theorem killCursors_keeps (s : MemoryServer) (command : Command) :
    s.Keeps (s.killCursors command).1 := by
  unfold killCursors
  split
  · exact .refl s
  · split
    · exact .refl s
    · exact s.killAll_keeps [] [] _

end ResultCursor.Peer.MemoryServer
