import SignatureSnippets.Decimal.Shortest
import SignatureSnippets.Json.Basic
import SignatureSnippets.Text.Surrogate

/-!
# Reading JSON

The reader follows the grammar of JSON, with the three additional literals `NaN`,
`Infinity` and `-Infinity`, and says of a text that does not follow it what was
expected and where. Between the tokens spaces, tabs, line feeds and carriage
returns are skipped. Of two fields with one name the later value counts, at the
place of the earlier one.

The containers that are only partly read are kept in a list, innermost first, so
that the reader is one loop over the text, whatever the depth of the value.

A fault carries the rest of the text from the place of the fault on; the position
follows from its length.
-/

namespace SignatureSnippets.Json

/-- What can be wrong with a JSON text. -/
inductive Fault where
  | expectedValue
  | expectedName
  | expectedColon
  | expectedComma
  | extraData
  | unterminatedString
  | controlCharacter
  | invalidEscape
  | invalidUnicodeEscape
  | byteOrderMark
  /-- An integer with more digits than can be converted. -/
  | tooManyDigits (count : Nat)
  deriving DecidableEq, Repr

/-- The longest integer that is converted, in digits. -/
def maxIntegerDigits : Nat := 4300

/-- The wording of a fault. -/
def Fault.message : Fault → String
  | .expectedValue => "Expecting value"
  | .expectedName => "Expecting property name enclosed in double quotes"
  | .expectedColon => "Expecting ':' delimiter"
  | .expectedComma => "Expecting ',' delimiter"
  | .extraData => "Extra data"
  | .unterminatedString => "Unterminated string starting at"
  | .controlCharacter => "Invalid control character at"
  | .invalidEscape => "Invalid \\escape"
  | .invalidUnicodeEscape => "Invalid \\uXXXX escape"
  | .byteOrderMark => "Unexpected UTF-8 BOM (decode using utf-8-sig)"
  | .tooManyDigits count =>
    "Exceeds the limit (" ++ toString maxIntegerDigits ++
      " digits) for integer string conversion: value has " ++ toString count ++
      " digits; use sys.set_int_max_str_digits() to increase the limit"

/-- A fault, with the text from the place of the fault on. -/
structure FaultAt where
  fault : Fault
  rest : List Char

/-! ## Blanks -/

/-- The characters that may stand between the tokens of a JSON text. -/
def isBlank (c : Char) : Bool :=
  c = ' ' || c = '\t' || c = '\n' || c = '\r'

/-- The text behind the blanks it starts with. -/
def skipBlanks (cs : List Char) : List Char :=
  cs.dropWhile isBlank

theorem length_skipBlanks (cs : List Char) : (skipBlanks cs).length ≤ cs.length :=
  (List.dropWhile_sublist isBlank).length_le

/-! ## Strings -/

/-- The value of a hexadecimal digit in either case. -/
def hexDigit? (c : Char) : Option Nat :=
  if '0' ≤ c ∧ c ≤ '9' then some (c.toNat - '0'.toNat)
  else if 'a' ≤ c ∧ c ≤ 'f' then some (c.toNat - 'a'.toNat + 10)
  else if 'A' ≤ c ∧ c ≤ 'F' then some (c.toNat - 'A'.toNat + 10)
  else none

/-- The number that the first four characters write in hexadecimal, and the rest of the
text. A string cannot end with these digits, so something has to follow them. -/
def fourDigits? : List Char → Option (Nat × List Char)
  | a :: b :: c :: d :: e :: rest => do
    let high := 16 * (← hexDigit? a) + (← hexDigit? b)
    let low := 16 * (← hexDigit? c) + (← hexDigit? d)
    return (256 * high + low, e :: rest)
  | _ => none

theorem length_fourDigits? {cs rest : List Char} {n : Nat}
    (h : fourDigits? cs = some (n, rest)) : rest.length ≤ cs.length := by
  unfold fourDigits? at h
  split at h
  · simp only [Option.bind_eq_bind, Option.bind_eq_some_iff, Option.pure_def,
      Option.some.injEq, Prod.mk.injEq] at h
    obtain ⟨_, _, _, _, _, _, _, _, _, rfl⟩ := h
    simp only [List.length_cons]
    omega
  · cases h

/-- The character that an escape of one letter stands for. -/
def letterEscape? : Char → Option Char
  | '"' => some '"'
  | '\\' => some '\\'
  | '/' => some '/'
  | 'b' => some '\x08'
  | 'f' => some '\x0c'
  | 'n' => some '\n'
  | 'r' => some '\r'
  | 't' => some '\t'
  | _ => none

/-- Reads the second half of a surrogate pair, behind a first half `high`. Without a
second half, the first one stands alone. -/
def secondHalf (high : Nat) (cs : List Char) : Except FaultAt (Char × List Char) :=
  match cs with
  | '\\' :: 'u' :: digits =>
    if digits.length < 5 then .ok (Text.standIn high, cs)
    else
      match fourDigits? digits with
      | none => .error ⟨.invalidUnicodeEscape, 'u' :: digits⟩
      | some (low, rest) =>
        if 0xdc00 ≤ low && low < 0xe000 then
          .ok (Char.ofNat (0x10000 + (high - 0xd800) * 0x400 + (low - 0xdc00)), rest)
        else .ok (Text.standIn high, cs)
  | _ => .ok (Text.standIn high, cs)

/-- Reads an escape behind its backslash: the character it stands for and the rest of
the text. `start` is the text from the opening quote on. -/
def escape (start : List Char) : List Char → Except FaultAt (Char × List Char)
  | [] => .error ⟨.unterminatedString, start⟩
  | c :: cs =>
    if c = 'u' then
      match fourDigits? cs with
      | none => .error ⟨.invalidUnicodeEscape, c :: cs⟩
      | some (unit, rest) =>
        if 0xd800 ≤ unit && unit < 0xdc00 then secondHalf unit rest
        else if 0xdc00 ≤ unit && unit < 0xe000 then .ok (Text.standIn unit, rest)
        else .ok (Char.ofNat unit, rest)
    else
      match letterEscape? c with
      | some letter => .ok (letter, cs)
      | none => .error ⟨.invalidEscape, '\\' :: c :: cs⟩

theorem length_secondHalf {high : Nat} {cs rest : List Char} {c : Char}
    (h : secondHalf high cs = .ok (c, rest)) : rest.length ≤ cs.length := by
  unfold secondHalf at h
  split at h
  · split at h
    · simp only [Except.ok.injEq, Prod.mk.injEq] at h
      exact h.2 ▸ Nat.le_refl _
    · split at h
      · cases h
      · rename_i hdigits
        have := length_fourDigits? hdigits
        simp only [List.length_cons]
        split at h
        · simp only [Except.ok.injEq, Prod.mk.injEq] at h
          obtain ⟨_, rfl⟩ := h
          omega
        · simp only [Except.ok.injEq, Prod.mk.injEq] at h
          rw [← h.2]
          simp
  · simp only [Except.ok.injEq, Prod.mk.injEq] at h
    exact h.2 ▸ Nat.le_refl _

theorem length_escape {start cs rest : List Char} {c : Char}
    (h : escape start cs = .ok (c, rest)) : rest.length ≤ cs.length := by
  cases cs with
  | nil => cases h
  | cons d cs =>
      simp only [escape] at h
      simp only [List.length_cons]
      split at h
      · split at h
        · cases h
        · rename_i hdigits
          have := length_fourDigits? hdigits
          split at h
          · have := length_secondHalf h
            omega
          · split at h <;>
              (simp only [Except.ok.injEq, Prod.mk.injEq] at h; obtain ⟨_, rfl⟩ := h; omega)
      · split at h <;> cases h
        omega

/-- Reads a string behind its opening quote. `done` is what was read of it, last
character first, and `start` is the text from the opening quote on. -/
def stringBody (start done : List Char) : List Char → Except FaultAt (String × List Char)
  | [] => .error ⟨.unterminatedString, start⟩
  | '"' :: rest => .ok (String.ofList done.reverse, rest)
  | '\\' :: cs =>
    match _h : escape start cs with
    | .error fault => .error fault
    | .ok (c, rest) => stringBody start (c :: done) rest
  | c :: cs =>
    if c < ' ' then .error ⟨.controlCharacter, c :: cs⟩ else stringBody start (c :: done) cs
termination_by cs => cs.length
decreasing_by
  · have := length_escape _h
    simp only [List.length_cons]
    omega
  · simp

theorem length_stringBody {start done cs rest : List Char} {s : String}
    (h : stringBody start done cs = .ok (s, rest)) : rest.length < cs.length := by
  fun_induction stringBody start done cs with
  | case1 => cases h
  | case2 => cases h; simp
  | case3 => cases h
  | case4 done cs c rest' heq ih =>
      have hescape := length_escape heq
      have := ih h
      simp only [List.length_cons]
      omega
  | case5 => cases h
  | case6 done c cs _ _ _ ih =>
      have := ih h
      simp only [List.length_cons]
      omega

/-! ## Numbers -/

/-- The number that decimal digits write. -/
def decimalValue (digits : List Char) : Nat :=
  digits.foldl (fun n d => 10 * n + (d.toNat - '0'.toNat)) 0

/-- The integer part of a number: a single zero, or digits that start with another
one. -/
def integerPart? : List Char → Option (List Char × List Char)
  | '0' :: rest => some (['0'], rest)
  | c :: rest =>
    if c.isDigit then some (c :: rest.takeWhile Char.isDigit, rest.dropWhile Char.isDigit)
    else none
  | [] => none

/-- The digits of a fraction, if a fraction follows. A point that no digit follows
does not belong to the number. -/
def fractionPart : List Char → List Char × List Char
  | '.' :: c :: rest =>
    if c.isDigit then (c :: rest.takeWhile Char.isDigit, rest.dropWhile Char.isDigit)
    else ([], '.' :: c :: rest)
  | rest => ([], rest)

/-- Whether the sign of an exponent is a minus, and the text behind the sign. -/
def signed : List Char → Bool × List Char
  | '-' :: rest => (true, rest)
  | '+' :: rest => (false, rest)
  | rest => (false, rest)

theorem length_signed (cs : List Char) : (signed cs).2.length ≤ cs.length := by
  unfold signed
  split <;> simp

/-- The exponent, if one follows. A mark that no digit follows does not belong to the
number. -/
def exponentPart (cs : List Char) : Option Int × List Char :=
  match cs with
  | c :: rest =>
    if c = 'e' || c = 'E' then
      let exponent := (signed rest).2.takeWhile Char.isDigit
      if exponent.isEmpty then (none, cs)
      else
        let size := Int.ofNat (decimalValue exponent)
        (some (if (signed rest).1 then -size else size),
          (signed rest).2.dropWhile Char.isDigit)
    else (none, cs)
  | [] => (none, cs)

/-- The floating-point number nearest to `digits * 10 ^ exponent`. Beyond the range of
finite numbers it is infinite, below it zero; both are decided before the power is
computed. -/
def nearestFloat (digits : Nat) (exponent : Int) : Float :=
  let size := Int.ofNat (Decimal.digitCount digits) + exponent
  if digits = 0 || size < -400 then 0.0
  else if 400 < size then 1.0 / 0.0
  else Float.ofScientific digits (exponent < 0) exponent.natAbs

/-- The number that the text starts with, behind its sign. -/
def unsignedNumber? (negative : Bool) (cs : List Char) :
    Option (Except Fault Json × List Char) := do
  let (whole, rest) ← integerPart? cs
  let (fraction, rest) := fractionPart rest
  let (exponent, rest) := exponentPart rest
  if fraction.isEmpty && exponent.isNone then
    if maxIntegerDigits < whole.length then
      return (.error (.tooManyDigits whole.length), rest)
    else
      let size := Int.ofNat (decimalValue whole)
      return (.ok (.int (if negative then -size else size)), rest)
  else
    let size := nearestFloat (decimalValue (whole ++ fraction))
      (exponent.getD 0 - Int.ofNat fraction.length)
    return (.ok (.float (if negative then -size else size)), rest)

theorem length_integerPart? {cs whole rest : List Char}
    (h : integerPart? cs = some (whole, rest)) : rest.length < cs.length := by
  unfold integerPart? at h
  split at h
  · cases h
    simp
  · rename_i c tail _
    split at h
    · cases h
      exact Nat.lt_succ_of_le (List.dropWhile_sublist _).length_le
    · cases h
  · cases h

theorem length_fractionPart (cs : List Char) : (fractionPart cs).2.length ≤ cs.length := by
  unfold fractionPart
  split
  · rename_i c tail
    split
    · have := (List.dropWhile_sublist Char.isDigit (l := tail)).length_le
      simp only [List.length_cons]
      omega
    · exact Nat.le_refl _
  · exact Nat.le_refl _

theorem length_exponentPart (cs : List Char) : (exponentPart cs).2.length ≤ cs.length := by
  cases cs with
  | nil => exact Nat.le_refl _
  | cons c tail =>
      simp only [exponentPart]
      split
      · split
        · exact Nat.le_refl _
        · have := (List.dropWhile_sublist Char.isDigit (l := (signed tail).2)).length_le
          have := length_signed tail
          simp only [List.length_cons]
          omega
      · exact Nat.le_refl _

theorem length_unsignedNumber? {negative : Bool} {cs rest : List Char}
    {number : Except Fault Json} (h : unsignedNumber? negative cs = some (number, rest)) :
    rest.length < cs.length := by
  simp only [unsignedNumber?, Option.bind_eq_bind, Option.bind_eq_some_iff] at h
  obtain ⟨⟨whole, behind⟩, hwhole, h⟩ := h
  have := length_integerPart? hwhole
  have := length_fractionPart behind
  have := length_exponentPart (fractionPart behind).2
  simp only [Option.pure_def] at h
  split at h
  · split at h <;> cases h <;> omega
  · cases h
    omega

/-- The literals, each with the value it writes. -/
def literals : List (List Char × Json) :=
  [ (['n', 'u', 'l', 'l'], .null),
    (['t', 'r', 'u', 'e'], .bool true),
    (['f', 'a', 'l', 's', 'e'], .bool false),
    (['N', 'a', 'N'], .float (0.0 / 0.0)),
    (['I', 'n', 'f', 'i', 'n', 'i', 't', 'y'], .float (1.0 / 0.0)),
    (['-', 'I', 'n', 'f', 'i', 'n', 'i', 't', 'y'], .float (-1.0 / 0.0)) ]

/-- The number that the text starts with, with its sign. -/
def number? : List Char → Option (Except Fault Json × List Char)
  | '-' :: cs => unsignedNumber? true cs
  | cs => unsignedNumber? false cs

/-- A literal or a number, and the rest of the text. -/
def scalar (cs : List Char) : Except FaultAt (Json × List Char) :=
  match literals.find? fun literal => literal.1.isPrefixOf cs with
  | some (text, value) => .ok (value, cs.drop text.length)
  | none =>
    match number? cs with
    | some (.ok value, rest) => .ok (value, rest)
    | some (.error fault, rest) => .error ⟨fault, rest⟩
    | none => .error ⟨.expectedValue, cs⟩

theorem length_scalar {cs rest : List Char} {found : Json}
    (h : scalar cs = .ok (found, rest)) : rest.length < cs.length := by
  unfold scalar at h
  split at h
  · rename_i text value hfind
    cases h
    have hfits := List.find?_some hfind
    have hnonempty : 0 < text.length := by
      have hmem := List.mem_of_find?_eq_some hfind
      simp only [literals, List.mem_cons, Prod.mk.injEq, List.not_mem_nil, or_false] at hmem
      rcases hmem with ⟨rfl, _⟩ | ⟨rfl, _⟩ | ⟨rfl, _⟩ | ⟨rfl, _⟩ | ⟨rfl, _⟩ | ⟨rfl, _⟩ <;>
        simp
    have hle : text.length ≤ cs.length := (List.isPrefixOf_iff_prefix.mp hfits).length_le
    simp only [List.length_drop]
    omega
  · split at h
    · rename_i hnumber
      cases h
      unfold number? at hnumber
      split at hnumber
      · have := length_unsignedNumber? hnumber
        simp only [List.length_cons]
        omega
      · exact length_unsignedNumber? hnumber
    · cases h
    · cases h

/-! ## Values -/

/-- A container that is partly read. -/
inductive Frame where
  /-- An array, with its items so far, last item first. -/
  | arr (items : List Json)
  /-- An object, with its fields so far and the name of the field being read. -/
  | obj (fields : List (String × Json)) (name : String)

mutual

/-- Reads a value that stands inside the given containers, and then the rest of the
containers. -/
def value (frames : List Frame) (cs : List Char) : Except FaultAt (Json × List Char) :=
  match cs with
  | [] => .error ⟨.expectedValue, []⟩
  | c :: tail =>
    if c = '"' then
      match _h : stringBody (c :: tail) [] tail with
      | .error fault => .error fault
      | .ok (text, rest) => resume frames (.str text) rest
    else if c = '[' then
      match _h : skipBlanks tail with
      | ']' :: rest => resume frames (.arr []) rest
      | rest => value (.arr [] :: frames) rest
    else if c = '\x7b' then
      match _h : skipBlanks tail with
      | '\x7d' :: rest => resume frames (.obj []) rest
      | rest => field frames [] rest
    else
      match _h : scalar (c :: tail) with
      | .error fault => .error fault
      | .ok (found, rest) => resume frames found rest
termination_by cs.length
decreasing_by
  · have := length_stringBody _h
    simp only [List.length_cons]
    omega
  · have := length_skipBlanks tail
    rw [_h] at this
    simp only [List.length_cons] at this ⊢
    omega
  · have := length_skipBlanks tail
    rw [_h] at this
    simp only [List.length_cons]
    omega
  · have := length_skipBlanks tail
    rw [_h] at this
    simp only [List.length_cons] at this ⊢
    omega
  · have := length_skipBlanks tail
    rw [_h] at this
    simp only [List.length_cons]
    omega
  · exact length_scalar _h

/-- Reads a field of the innermost object: its name, a colon and its value. -/
def field (frames : List Frame) (fields : List (String × Json)) (cs : List Char) :
    Except FaultAt (Json × List Char) :=
  match cs with
  | '"' :: tail =>
    match _h : stringBody cs [] tail with
    | .error fault => .error fault
    | .ok (name, rest) =>
      match _h' : skipBlanks rest with
      | ':' :: behind => value (.obj fields name :: frames) (skipBlanks behind)
      | behind => .error ⟨.expectedColon, behind⟩
  | _ => .error ⟨.expectedName, cs⟩
termination_by cs.length
decreasing_by
  have := length_stringBody _h
  have hrest := length_skipBlanks rest
  have := length_skipBlanks behind
  rw [_h'] at hrest
  simp only [List.length_cons] at hrest ⊢
  omega

/-- Goes on behind a value that is complete. -/
def resume (frames : List Frame) (done : Json) (cs : List Char) :
    Except FaultAt (Json × List Char) :=
  match frames with
  | [] => .ok (done, cs)
  | .arr items :: outer =>
    match _h : skipBlanks cs with
    | ',' :: rest => value (.arr (done :: items) :: outer) (skipBlanks rest)
    | ']' :: rest => resume outer (.arr (done :: items).reverse) rest
    | rest => .error ⟨.expectedComma, rest⟩
  | .obj fields name :: outer =>
    match _h : skipBlanks cs with
    | ',' :: rest => field outer (putField name done fields) (skipBlanks rest)
    | '\x7d' :: rest => resume outer (.obj (putField name done fields)) rest
    | rest => .error ⟨.expectedComma, rest⟩
termination_by cs.length
decreasing_by
  all_goals
    have := length_skipBlanks cs
    have := length_skipBlanks rest
    simp only [_h, List.length_cons] at *
    omega

end

/-! ## Documents -/

/-- A fault in a document, with its place counted in characters from zero. -/
structure ReadError where
  fault : Fault
  position : Nat
  deriving DecidableEq, Repr

/-- Reads a document: one value, with nothing but blanks around it. -/
def document (cs : List Char) : Except FaultAt Json := do
  let (found, rest) ← value [] (skipBlanks cs)
  match skipBlanks rest with
  | [] => return found
  | rest => throw ⟨.extraData, rest⟩

/-- Reads a document from its characters. -/
def ofChars (cs : List Char) : Except ReadError Json :=
  match document cs with
  | .ok found => .ok found
  | .error ⟨fault, rest⟩ => .error ⟨fault, cs.length - rest.length⟩

/-- Reads a document from its text, in front of which no byte order mark may stand. -/
def read (text : String) : Except ReadError Json :=
  if text.toList.head? = some '\ufeff' then .error ⟨.byteOrderMark, 0⟩
  else ofChars text.toList

/-- The message of a fault together with its place, by line and column counted from
one and by character counted from zero. -/
def ReadError.describe (e : ReadError) (text : String) : String :=
  let before := text.toList.take e.position
  let line := before.count '\n' + 1
  let column := (before.reverse.takeWhile (· ≠ '\n')).length + 1
  e.fault.message ++ ": line " ++ toString line ++ " column " ++ toString column ++
    " (char " ++ toString e.position ++ ")"

end SignatureSnippets.Json
