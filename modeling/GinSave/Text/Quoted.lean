import GinSave.Text.Printable

/-!
The quoted form of a text, as error messages and list displays write it. The text stands between
single quotes, or between double quotes when it holds a single quote and no double quote. Inside,
the chosen quote and the backslash take a backslash; tab, line feed and carriage return are
written `\t`, `\n`, `\r`; other characters that are not printable are written in hexadecimal with
two, four or eight digits, by the size of their code point.
-/

namespace GinSave.Text

/-- Lower-case hexadecimal digits of `n`, padded with zeros to `width`. -/
def hexDigits (width n : Nat) : String :=
  let ds := Nat.toDigits 16 n
  String.ofList (List.replicate (width - ds.length) '0' ++ ds)

/-- The escape that stands for one character inside quotes `q`. -/
def escapeChar (q c : Char) : String :=
  let n := c.toNat
  if c == q || c == '\\' then String.ofList ['\\', c]
  else if c == '\t' then "\\t"
  else if c == '\n' then "\\n"
  else if c == '\r' then "\\r"
  else if n < 0x20 || n == 0x7F then "\\x" ++ hexDigits 2 n
  else if n < 0x7F || isPrintable c then c.toString
  else if n ≤ 0xFF then "\\x" ++ hexDigits 2 n
  else if n ≤ 0xFFFF then "\\u" ++ hexDigits 4 n
  else "\\U" ++ hexDigits 8 n

/-- The quote a text is written between. -/
def quoteFor (s : String) : Char :=
  if s.toList.contains '\'' && !s.toList.contains '"' then '"' else '\''

/-- The quoted form of a text. -/
def quote (s : String) : String :=
  let q := quoteFor s
  q.toString ++ String.join (s.toList.map (escapeChar q)) ++ q.toString

end GinSave.Text
