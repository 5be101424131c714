import ResultCursor.Proofs.Course.Coherence

/-! Where a cursor looks for the server's cursor: always at the address that it was opened with. -/

namespace ResultCursor

/-- The cursor and the server's cursor that it holds have this address. -/
structure Cursor.At (address : Address) (c : Cursor) : Prop where
  own : c.address = address
  remote : ∀ remote, c.remote = some remote → remote.address = address

namespace Cursor.At

variable {address : Address} {c c' : Cursor}

/-- A cursor that has no other server's cursor than before is where it was. -/
theorem of_remote (h : c.At address) (own : c'.address = c.address)
    (remote : c'.remote = c.remote ∨ c'.remote = none) : c'.At address where
  own := own.trans h.own
  remote r hr := by
    rcases remote with same | none
    · exact h.remote r (same.symm.trans hr)
    · cases none.symm.trans hr

theorem of_eq (h : c.At address) (same : c' = c) : c'.At address := same ▸ h

theorem settled (h : c.At address) : ({ c with inFlight := false } : Cursor).At address :=
  h.of_remote rfl (.inl rfl)

/-- The server's cursor of a reply is looked for where the reply came from. -/
theorem absorb (h : c.At address) (r : BatchReply) : (c.absorb r).At address where
  own := h.own
  remote remote hr := by
    have found : RemoteCursor.ofId? r.id c.address = some remote := hr
    unfold RemoteCursor.ofId? at found
    split at found
    · cases found
    · cases found
      exact h.own

theorem fail (h : c.At address) (f : Failure) : (c.fail f).At address := by
  refine h.of_remote rfl ?_
  unfold Cursor.fail
  cases isNotFound f with
  | true => exact .inr rfl
  | false => exact .inl rfl

end Cursor.At

namespace Situation

variable {R : Rules} {S T : Situation} {reply : Document} {setting : Setting} {address : Address}

end Situation

end ResultCursor
