import MapClient.Text.Hidden

/-!
# Quoted text

A text in double quotes on one line. A quote and a backslash are written after
a backslash, line feed, carriage return, tab and NUL have a letter each, and
every other character that is not shown is written as its number in braces.
`decode` reads the quoted form back and stops at the first bare quote.
-/

set_option autoImplicit false

namespace MapClient.Text.Quoted

def hexDigit (n : Nat) : Char := Char.ofNat (if n < 10 then 48 + n else 87 + n)

def hexDigits (n : Nat) : List Char :=
  if n < 16 then [hexDigit n] else hexDigits (n / 16) ++ [hexDigit (n % 16)]

def numbered (c : Char) : List Char :=
  ['\\', 'u', '\x7b'] ++ hexDigits c.toNat ++ ['\x7d']

def encodeChar (c : Char) : List Char :=
  if c = '\x22' then ['\\', '\x22']
  else if c = '\\' then ['\\', '\\']
  else if c = '\n' then ['\\', 'n']
  else if c = '\r' then ['\\', 'r']
  else if c = '\t' then ['\\', 't']
  else if c = '\x00' then ['\\', '0']
  else if isHidden c then numbered c
  else [c]

def encode (cs : List Char) : List Char := cs.flatMap encodeChar

def decodeNumber (acc : Nat) : List Char → Option (Char × List Char)
  | [] => none
  | c :: cs =>
    if c = '\x7d' then some (Char.ofNat acc, cs)
    else (hexValue? c).bind fun d => decodeNumber (16 * acc + d) cs

def decodeEscape : List Char → Option (Char × List Char)
  | '\x22' :: cs => some ('\x22', cs)
  | '\\' :: cs => some ('\\', cs)
  | 'n' :: cs => some ('\n', cs)
  | 'r' :: cs => some ('\r', cs)
  | 't' :: cs => some ('\t', cs)
  | '0' :: cs => some ('\x00', cs)
  | 'u' :: '\x7b' :: cs => decodeNumber 0 cs
  | _ => none

theorem decodeNumber_length {acc : Nat} {cs rest : List Char} {c : Char}
    (h : decodeNumber acc cs = some (c, rest)) : rest.length < cs.length := by
  induction cs generalizing acc with
  | nil => simp [decodeNumber] at h
  | cons d ds ih =>
    rw [decodeNumber] at h
    split at h
    · cases h
      simp
    · obtain ⟨_, _, h'⟩ := Option.bind_eq_some_iff.1 h
      have := ih h'
      simp only [List.length_cons]
      omega

theorem decodeEscape_length {cs rest : List Char} {c : Char}
    (h : decodeEscape cs = some (c, rest)) : rest.length < cs.length := by
  unfold decodeEscape at h
  split at h <;> try (cases h; simp)
  · have := decodeNumber_length h
    simp only [List.length_cons]
    omega
  · cases h

def decode (cs : List Char) : Option (List Char × List Char) :=
  match cs with
  | [] => none
  | c :: cs =>
    if c = '\x22' then some ([], cs)
    else if c = '\\' then
      match _h : decodeEscape cs with
      | none => none
      | some (d, rest) => (decode rest).map fun r => (d :: r.1, r.2)
    else (decode cs).map fun r => (c :: r.1, r.2)
termination_by cs.length
decreasing_by
  · have := decodeEscape_length _h
    simp only [List.length_cons]
    omega
  · simp

end Quoted

def quote (s : String) : String := .ofList ('\x22' :: Quoted.encode s.toList ++ ['\x22'])

end MapClient.Text
