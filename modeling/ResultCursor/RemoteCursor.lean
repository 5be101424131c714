import ResultCursor.Address

/-! A cursor that a server holds. The number zero stands for none. -/

namespace ResultCursor

structure RemoteCursor where
  id : Int64
  address : Address
  id_ne_zero : id ≠ 0
  deriving DecidableEq, Repr

namespace RemoteCursor

def ofId? (id : Int64) (address : Address) : Option RemoteCursor :=
  if h : id = 0 then none else some ⟨id, address, h⟩

def text (r : RemoteCursor) : String := toString r.id.toInt ++ "@" ++ r.address.text

end RemoteCursor

end ResultCursor
