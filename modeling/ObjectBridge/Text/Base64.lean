import ObjectBridge.Text.Utf8

/-!
# `ObjectBridge.Text.Base64`: bytes written with 64 characters

Four characters stand for three bytes; at the end two of them and `==`
stand for one, three and `=` for two. Line breaks do not count.

`Base64.decode` never fails: it delivers what stands before the first
mistake. Characters after the end are a mistake too, but one that comes
too late to matter. `Base64.decode?` does not put up with any.
-/

set_option autoImplicit false

namespace ObjectBridge.Base64

/-- What a character stands for. -/
def digit? (c : Char) : Option Nat :=
  if 'A' ≤ c ∧ c ≤ 'Z' then some (c.toNat - 'A'.toNat)
  else if 'a' ≤ c ∧ c ≤ 'z' then some (c.toNat - 'a'.toNat + 26)
  else if c.isDigit then some (c.toNat - '0'.toNat + 52)
  else if c = '+' then some 62
  else if c = '/' then some 63
  else none

/-- Reads characters that are no line breaks: the bytes before the first
mistake, and whether there is none. -/
def read : List Char → Bytes × Bool
  | a :: b :: c :: d :: rest =>
    match digit? a, digit? b, digit? c, digit? d with
    | some p, some q, some r, some s =>
      let n := ((p * 64 + q) * 64 + r) * 64 + s
      let (bytes, complete) := read rest
      ((n / 65536).toUInt8 :: (n / 256 % 256).toUInt8 :: (n % 256).toUInt8 :: bytes, complete)
    | some p, some q, some r, none =>
      let n := (p * 64 + q) * 64 + r
      if d = '=' then ([(n / 1024).toUInt8, (n / 4 % 256).toUInt8], rest.isEmpty) else ([], false)
    | some p, some q, none, none =>
      if c = '=' ∧ d = '=' then ([((p * 64 + q) / 16).toUInt8], rest.isEmpty) else ([], false)
    | _, _, _, _ => ([], false)
  | rest => ([], rest.isEmpty)

/-- Without line breaks. -/
def joined (cs : List Char) : List Char := cs.filter fun c => c ≠ '\n' && c ≠ '\r'

/-- The bytes that a text stands for, up to the first mistake. -/
def decode (cs : List Char) : Bytes := (read (joined cs)).1

/-- The bytes that a text stands for, if there is no mistake in it. -/
def decode? (cs : List Char) : Option Bytes :=
  match read (joined cs) with
  | (bytes, true) => some bytes
  | _ => none

end ObjectBridge.Base64
