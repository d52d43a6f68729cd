import Mooring.Record.Decode
import Mooring.Text.Utf8
namespace Mooring.Toml

open Mooring.Record Mooring.Text

/-- Why a text is not the wanted TOML, and where, when known. -/
structure TomlError where
  message : String
  span : Option Span

/-- The line and column, both counted from zero, of a byte offset. -/
def position (input : List UInt8) (index : Nat) : Nat × Nat :=
  if input.isEmpty then (0, index)
  else
    let safe := min index (input.length - 1)
    let before := input.take safe
    let lineStart := before.length - (before.reverse.takeWhile (· != 0x0A)).length
    let line := (input.take lineStart).count 0x0A
    let column := match Utf8.decode? ((input.take (safe + 1)).drop lineStart) with
      | some s => s.length - 1
      | none => safe - lineStart
    (line, column + (index - safe))

def spaces (n : Nat) : String := String.ofList (List.replicate n ' ')

/-- The error as shown for the text it was found in. -/
def TomlError.render (e : TomlError) (text : String) : String :=
  match e.span with
  | none => e.message ++ "\n"
  | some (start, stop) =>
    let bytes := Utf8.encode text
    let (line, column) := position bytes start
    let lineNumber := toString (line + 1)
    let content := (text.splitOn "\n").getD line ""
    let highlight := min (stop - start) (content.utf8ByteSize - column)
    let gutter := spaces (lineNumber.length + 1)
    "TOML parse error at line " ++ lineNumber ++ ", column " ++ toString (column + 1) ++ "\n" ++
      gutter ++ "|\n" ++
      lineNumber ++ " | " ++ content ++ "\n" ++
      gutter ++ "|" ++ spaces (column + 1) ++ "^" ++
        String.ofList (List.replicate (highlight - 1) '^') ++ "\n" ++
      e.message ++ "\n"

end Mooring.Toml
