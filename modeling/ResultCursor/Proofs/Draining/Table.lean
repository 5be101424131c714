import ResultCursor.Proofs.Agreement.Usage
import ResultCursor.Proofs.Draining.Server

/-! A cursor at one table with the server in memory. The server sees what the cursor does: the
commands that it sends, which are answered at once, and the leases on the connection that it gives
back. Two kinds of cursors that keep in step come to the same at such a table. -/

namespace ResultCursor

open Peer (MemoryServer)

/-- An answer that was given at once. -/
def Peer.Reaction.outcome? {Held : Type} : Reaction Held → Option Outcome
  | .answers o _ => some o
  | .holds .. => none

/-- The server sees one deed of the cursor. -/
def Peer.MemoryServer.see (now : Instant) (x : MemoryServer × Option Outcome) :
    Event → MemoryServer × Option Outcome
  | .sent sending =>
    let (server, reaction) := x.1.arrive sending.command sending.allowance { now }
    (server, reaction.outcome?)
  | .released .connection => (x.1.released, x.2)
  | _ => x

structure Table (σ : Type) where
  cursor : σ
  server : MemoryServer
  /-- The number of deeds of the cursor that the server has seen. -/
  seen : Nat := 0

namespace Table

variable {σ τ : Type}

/-- The deeds of the cursor so far. -/
def done (u : Usage σ) (t : Table σ) : List Event := deeds (u.session t.cursor).journal

/-- The server sees what the cursor has done since it looked last, with the outcome of the command
that was sent, if one was. -/
def attend (u : Usage σ) (t : Table σ) : Table σ × Option Outcome :=
  let now := (u.session t.cursor).clock.now
  let (server, outcome) :=
    ((t.done u).drop t.seen).foldl (MemoryServer.see now) (t.server, none)
  ({ t with server, seen := (t.done u).length }, outcome)

/-- Commands come and go until none is under way, in so many rounds at most. -/
def settle (u : Usage σ) : Nat → Table σ → Option (Table σ)
  | 0, _ => none
  | rounds + 1, t =>
    let (t, outcome) := t.attend u
    if u.waits t.cursor then
      match outcome.bind Outcome.result? with
      | some result => settle u rounds { t with cursor := u.hear t.cursor result }
      | none => none
    else some t

/-- Makes a call and waits for its answer. -/
def request (u : Usage σ) (rounds : Nat) (t : Table σ) (r : Request) : Option (Table σ) :=
  settle u rounds { t with cursor := u.perform t.cursor (.call r) }

/-- The newest answer. -/
def answer? (u : Usage σ) (t : Table σ) : Option Answer := (u.answers t.cursor).getLast?

/-- Sets one batch size after the other. -/
def resize (u : Usage σ) (rounds : Nat) : Table σ → List Int32 → Option (Table σ)
  | t, [] => some t
  | t, n :: sizes => do
    let t ← t.request u rounds (.setBatchSize n)
    resize u rounds t sizes

/-- Calls `hasNext` and `next` in turn until there are no more batches, in so many rounds at most.
Before each call, batch sizes are set. -/
def drain (u : Usage σ) :
    Nat → (Nat → List Int32) → Table σ → Option (List (List Document) × Table σ)
  | 0, _, _ => none
  | rounds + 1, sizes, t => do
    let t ← t.resize u (rounds + 1) (sizes 0)
    let t ← t.request u (rounds + 1) (.iterate .hasNext)
    match t.answer? u with
    | some (.more false) => some ([], t)
    | some (.more true) =>
      let t ← t.resize u (rounds + 1) (sizes 1)
      let t ← t.request u (rounds + 1) (.iterate .next)
      match t.answer? u with
      | some (.batch batch) =>
        let (batches, t) ← drain u rounds (fun k => sizes (k + 2)) t
        some (batch :: batches, t)
      | _ => none
    | _ => none

section

variable {u : Usage σ} {rounds : Nat} {sizes : Nat → List Int32} {t t₁ t₂ t₃ t₄ t₅ : Table σ}

/-- No batch is left. -/
theorem drain_end (h₁ : t.resize u (rounds + 1) (sizes 0) = some t₁)
    (h₂ : t₁.request u (rounds + 1) (.iterate .hasNext) = some t₂)
    (ended : t₂.answer? u = some (.more false)) :
    t.drain u (rounds + 1) sizes = some ([], t₂) := by
  simp [drain, h₁, h₂, ended]

/-- One batch is handed out, and then the others. -/
theorem drain_cons {batch : List Document} {batches : List (List Document)}
    (h₁ : t.resize u (rounds + 1) (sizes 0) = some t₁)
    (h₂ : t₁.request u (rounds + 1) (.iterate .hasNext) = some t₂)
    (more : t₂.answer? u = some (.more true))
    (h₃ : t₂.resize u (rounds + 1) (sizes 1) = some t₃)
    (h₄ : t₃.request u (rounds + 1) (.iterate .next) = some t₄)
    (handed : t₄.answer? u = some (.batch batch))
    (h₅ : t₄.drain u rounds (fun k => sizes (k + 2)) = some (batches, t₅)) :
    t.drain u (rounds + 1) sizes = some (batch :: batches, t₅) := by
  simp [drain, h₁, h₂, more, h₃, h₄, handed, h₅]

end

/-- Opens a cursor on the server's first reply and reads it to the end. -/
def readAll (u : Usage σ) (rounds : Nat) (sizes : Nat → List Int32) (server : MemoryServer)
    (ns : String) (setting : Setting) : Option (List (List Document) × Table σ) :=
  let (server, reply) := server.find ⟨ns, setting.options.quota.initialBatchSize, false, false⟩
  match u.start reply setting with
  | .error _ => none
  | .ok cursor => do
    let t ← settle u rounds { cursor, server }
    t.drain u rounds sizes

/-! ### Two kinds of cursors -/

/-- Two tables that differ in the kind of the cursor alone. -/
structure Beside (Q : σ → τ → Prop) (t : Table σ) (t' : Table τ) : Prop where
  cursors : Q t.cursor t'.cursor
  server : t'.server = t.server
  seen : t'.seen = t.seen

/-- If the one comes to a table at which no command is under way, then the other comes to a table
beside it. -/
def Follows (u : Usage σ) (Q : σ → τ → Prop) (x : Option (Table σ)) (y : Option (Table τ)) : Prop :=
  ∀ t, x = some t → ∃ t', y = some t' ∧ Beside Q t t' ∧ u.waits t.cursor = false

section

variable {u : Usage σ} {v : Usage τ} {Q P : σ → τ → Prop} {t : Table σ} {t' : Table τ}

theorem Beside.done_eq (h : Usage.Matches u v Q P) (ht : Beside Q t t') :
    t'.done v = t.done u :=
  congrArg (fun s : Sight => s.session.journal) (h.sight ht.cursors)

theorem Beside.now_eq (h : Usage.Matches u v Q P) (ht : Beside Q t t') :
    (v.session t'.cursor).clock.now = (u.session t.cursor).clock.now :=
  congrArg (fun s : Sight => s.session.clock.now) (h.sight ht.cursors)

theorem Beside.answer?_eq (h : Usage.Matches u v Q P) (ht : Beside Q t t') :
    t'.answer? v = t.answer? u :=
  congrArg (fun s : Sight => s.answers.getLast?) (h.sight ht.cursors)

/-- The server sees the same of both. -/
theorem Beside.attend (h : Usage.Matches u v Q P) (ht : Beside Q t t') :
    Beside Q (t.attend u).1 (t'.attend v).1 ∧ (t'.attend v).2 = (t.attend u).2 := by
  unfold Table.attend
  rw [ht.done_eq h, ht.now_eq h, ht.server, ht.seen]
  exact ⟨⟨ht.cursors, rfl, rfl⟩, rfl⟩

theorem Beside.settle (h : Usage.Matches u v Q P) (ht : Beside Q t t') (rounds : Nat) :
    Follows u Q (t.settle u rounds) (t'.settle v rounds) := by
  induction rounds generalizing t t' with
  | zero => exact fun _ hs => by cases hs
  | succ rounds ih =>
    intro w hs
    obtain ⟨seen, outcome⟩ := ht.attend h
    have waits := h.inUse.waits seen.cursors
    simp only [Table.settle] at hs ⊢
    rw [outcome, waits]
    cases hw : u.waits (t.attend u).1.cursor with
    | false =>
      rw [hw, if_neg Bool.false_ne_true] at hs
      cases hs
      exact ⟨_, if_neg Bool.false_ne_true, seen, hw⟩
    | true =>
      rw [hw, if_pos rfl] at hs
      rw [if_pos rfl]
      cases ho : (t.attend u).2.bind Outcome.result? with
      | none => simp [ho] at hs
      | some result =>
        simp only [ho] at hs ⊢
        have heard : Beside Q
            { (t.attend u).1 with cursor := u.hear (t.attend u).1.cursor result }
            { (t'.attend v).1 with cursor := v.hear (t'.attend v).1.cursor result } :=
          ⟨h.inUse.hear seen.cursors hw result, seen.server, seen.seen⟩
        exact ih heard w hs

variable (h : Usage.Matches u v Q P) (ht : Beside Q t t') (hw : u.waits t.cursor = false)
include h ht hw

theorem Beside.request (rounds : Nat) (r : Request) :
    Follows u Q (t.request u rounds r) (t'.request v rounds r) := by
  have asked : Beside Q { t with cursor := u.perform t.cursor (.call r) }
      { t' with cursor := v.perform t'.cursor (.call r) } :=
    ⟨h.perform ht.cursors hw (.call r), ht.server, ht.seen⟩
  exact asked.settle h rounds

theorem Beside.resize (rounds : Nat) (sizes : List Int32) :
    Follows u Q (t.resize u rounds sizes) (t'.resize v rounds sizes) := by
  induction sizes generalizing t t' with
  | nil =>
    rintro w ⟨⟩
    exact ⟨t', rfl, ht, hw⟩
  | cons n sizes ih =>
    intro w hs
    obtain ⟨t₁, hn, hs⟩ := Option.bind_eq_some_iff.mp hs
    obtain ⟨t₁', hn', ht₁, hw₁⟩ := ht.request h hw rounds (.setBatchSize n) t₁ hn
    obtain ⟨w', hs', beside⟩ := ih ht₁ hw₁ w hs
    exact ⟨w', Option.bind_eq_some_iff.mpr ⟨t₁', hn', hs'⟩, beside⟩

/-- The same batches are read at both tables. -/
theorem Beside.drain (rounds : Nat) (sizes : Nat → List Int32) {batches : List (List Document)}
    {w : Table σ} (hs : t.drain u rounds sizes = some (batches, w)) :
    ∃ w', t'.drain v rounds sizes = some (batches, w') ∧ Beside Q w w' ∧
      u.waits w.cursor = false := by
  induction rounds generalizing t t' sizes batches with
  | zero => cases hs
  | succ rounds ih =>
    simp only [Table.drain, Option.bind_eq_bind, Option.bind_eq_some_iff] at hs
    obtain ⟨t₁, h₁, t₂, h₂, hs⟩ := hs
    obtain ⟨t₁', h₁', b₁, w₁⟩ := ht.resize h hw _ _ t₁ h₁
    obtain ⟨t₂', h₂', b₂, w₂⟩ := b₁.request h w₁ _ _ t₂ h₂
    have answered := b₂.answer?_eq h
    split at hs
    · next ha =>
      cases hs
      exact ⟨t₂', drain_end h₁' h₂' (answered.trans ha), b₂, w₂⟩
    · next ha =>
      simp only [Option.bind_eq_some_iff] at hs
      obtain ⟨t₃, h₃, t₄, h₄, hs⟩ := hs
      obtain ⟨t₃', h₃', b₃, w₃⟩ := b₂.resize h w₂ _ _ t₃ h₃
      obtain ⟨t₄', h₄', b₄, w₄⟩ := b₃.request h w₃ _ _ t₄ h₄
      have handed := b₄.answer?_eq h
      split at hs
      · next batch hb =>
        obtain ⟨⟨rest, t₅⟩, h₅, hs⟩ := Option.bind_eq_some_iff.mp hs
        cases hs
        obtain ⟨t₅', h₅', beside⟩ := ih b₄ w₄ _ h₅
        exact ⟨t₅', drain_cons h₁' h₂' (answered.trans ha) h₃' h₄' (handed.trans hb) h₅', beside⟩
      · cases hs
    · cases hs

end

/-- Whoever reads a collection with the one kind of cursors can read it with the other. -/
theorem readAll_follows {u : Usage σ} {v : Usage τ} {Q P : σ → τ → Prop}
    (h : Usage.Matches u v Q P) {rounds : Nat} {sizes : Nat → List Int32} {server : MemoryServer}
    {ns : String} {setting : Setting} {batches : List (List Document)} {t : Table σ}
    (hs : readAll u rounds sizes server ns setting = some (batches, t)) :
    ∃ t', readAll v rounds sizes server ns setting = some (batches, t') ∧ Beside Q t t' := by
  unfold readAll at hs ⊢
  dsimp only at hs ⊢
  rcases h.start (server.find ⟨ns, setting.options.quota.initialBatchSize, false, false⟩).2 setting
    with ⟨f, hu, -⟩ | ⟨c, c', hu, hv, cursors⟩
  · simp [hu] at hs
  · simp only [hu, hv, Option.bind_eq_bind, Option.bind_eq_some_iff] at hs ⊢
    obtain ⟨t₀, h₀, hs⟩ := hs
    have beside : Beside Q
        ⟨c, (server.find ⟨ns, setting.options.quota.initialBatchSize, false, false⟩).1, 0⟩
        ⟨c', (server.find ⟨ns, setting.options.quota.initialBatchSize, false, false⟩).1, 0⟩ :=
      ⟨cursors, rfl, rfl⟩
    obtain ⟨t₀', h₀', b₀, w₀⟩ := beside.settle h rounds t₀ h₀
    obtain ⟨t', ht', b, -⟩ := b₀.drain h w₀ rounds sizes hs
    exact ⟨t', ⟨t₀', h₀', ht'⟩, b⟩

end Table

end ResultCursor
