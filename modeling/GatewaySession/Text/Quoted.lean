import GatewaySession.Text.Unprintable

/-!
# Quoted text in diagnostics

A text in a diagnostic stands between quotation marks. The quotation mark and the backslash are
escaped, four controls have letters, and every other character that would not show as itself is
written as its code point in lowercase hexadecimal without leading zeros. The apostrophe stands as
it is.

## Main definitions

* `Text.quote` — the quoted form of a text
-/

namespace GatewaySession

namespace Text

/-- The form of one character between quotation marks. -/
def quoteChar (c : Char) : List Char :=
  if c = '"' then ['\\', '"']
  else if c = '\\' then ['\\', '\\']
  else if c = '\n' then ['\\', 'n']
  else if c = '\r' then ['\\', 'r']
  else if c = '\t' then ['\\', 't']
  else if c = '\x00' then ['\\', '0']
  else if isUnprintable c then
    ['\\', 'u', '\x7b'] ++ Nat.toDigits 16 c.toNat ++ ['\x7d']
  else [c]

/-- The text between quotation marks. -/
def quote (text : String) : String :=
  String.ofList ('"' :: text.toList.flatMap quoteChar ++ ['"'])

end Text

end GatewaySession
