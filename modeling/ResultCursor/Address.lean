import ResultCursor.Text.Quoted

/-! Server addresses. -/

namespace ResultCursor

inductive Address where
  | tcp (host : String) (port : Option Nat)
  | unix (path : String)
  deriving DecidableEq, Repr, Inhabited

namespace Address

def defaultPort : Nat := 27017

def localServer : Address := .tcp "localhost" (some defaultPort)

/-- The host with its port, the usual one if none is given; of a socket file the path. -/
def text : Address → String
  | tcp host port => host ++ ":" ++ toString (port.getD defaultPort)
  | unix path => path

def inspect : Address → String
  | tcp host port =>
    let port := match port with
      | some p => "Some(" ++ toString p ++ ")"
      | none => "None"
    "Tcp \x7b host: " ++ Text.quoted host ++ ", port: " ++ port ++ " \x7d"
  | unix path => "Unix \x7b path: " ++ Text.quoted path ++ " \x7d"

end Address

end ResultCursor
