/-! The two flags by which another thread stops a blocking cursor. An interrupt is used up by the
call that it stops; a close request stays. -/

namespace ResultCursor

structure Signal where
  interrupted : Bool := false
  closeRequested : Bool := false
  deriving DecidableEq, Repr

namespace Signal

def interrupt (s : Signal) : Signal := { s with interrupted := true }

def requestClose (s : Signal) : Signal := { s with closeRequested := true }

def shouldStop (s : Signal) : Bool := s.interrupted || s.closeRequested

/-- Uses up the interrupt. -/
def acknowledge (s : Signal) : Signal := { s with interrupted := false }

end Signal

end ResultCursor
