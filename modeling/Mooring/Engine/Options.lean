namespace Mooring.Engine

def defaultMaxConnections : Nat := 100

structure ClientOptions where
  maxConnections : Nat
  /-- The limit on calls that do not stream, in seconds; streams run unbounded. -/
  requestTimeoutSecs : Option Nat
  deriving DecidableEq

def ClientOptions.default : ClientOptions := ⟨defaultMaxConnections, none⟩

end Mooring.Engine
