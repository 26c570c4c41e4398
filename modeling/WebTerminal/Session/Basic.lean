import WebTerminal.Connection.Basic
import WebTerminal.Keyboard.Encoder
import WebTerminal.Session.Status

/-! # Sessions

A session joins a connection to a keyboard and a screen: inputs are encoded and sent, received bytes
are decoded and shown. -/

namespace WebTerminal

structure Session where
  connection : Connection
  encoder : Encoder
  decoder : Utf8.Decoder := {}
  lastStatus? : Option Session.Status := none
  deriving DecidableEq, Repr

namespace Session

def pendingLine (s : Session) : String := s.encoder.pendingLine

def statistics (s : Session) : Connection.Statistics := s.connection.statistics

end Session

end WebTerminal
