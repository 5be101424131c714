import ResultCursor.Peer.Gateway
import ResultCursor.Peer.MemoryServer
import ResultCursor.Peer.Script

/-! The peers that a cursor can be played against, as one type. -/

namespace ResultCursor

inductive Peer where
  | script (s : Peer.Script)
  | memory (s : Peer.MemoryServer)
  | gateway (g : Peer.Gateway)

namespace Peer

inductive Held where
  | script (h : ScriptAnswer)
  | memory (h : HeldRequest)
  | gateway (h : Doomed)

def Reaction.map (f : α → β) : Reaction α → Reaction β
  | answers o notes => .answers o notes
  | holds h wake => .holds (f h) wake

/-- A command arrives; the signal comes back as the peer leaves it. -/
def arrive (p : Peer) (command : Command) (allowance : Except Failure Allowance) (m : Moment) :
    Peer × Option Signal × Reaction Held :=
  match p with
  | script s =>
    let (s, signal, r) := s.arrive command m
    (.script s, signal, r.map .script)
  | memory s =>
    let (s, r) := s.arrive command allowance m
    (.memory s, m.signal, r.map .memory)
  | gateway g =>
    let (g, r) := g.arrive command allowance m
    (.gateway g, m.signal, r.map .gateway)

/-- Asks again for a command that is being held. -/
def poll (p : Peer) (h : Held) (m : Moment) : Peer × Reaction Held :=
  match p, h with
  | script s, .script h =>
    let (s, r) := s.poll h m
    (.script s, r.map .script)
  | memory s, .memory h =>
    let (s, r) := s.poll h m
    (.memory s, r.map .memory)
  | gateway g, .gateway h =>
    let (g, r) := g.poll h m
    (.gateway g, r.map .gateway)
  | p, h => (p, .holds h none)

/-- A held command is given up. -/
def abandon (p : Peer) : Peer :=
  match p with
  | memory s => .memory s.abandon
  | p => p

def memory? : Peer → Option MemoryServer
  | memory s => some s
  | _ => none

/-- Changes the server in memory, if the peer is one. -/
def overMemory (p : Peer) (f : MemoryServer → MemoryServer) : Peer :=
  match p with
  | memory s => .memory (f s)
  | p => p

end Peer

end ResultCursor
