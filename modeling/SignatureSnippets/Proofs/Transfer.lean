import Mathlib.Data.List.TakeWhile
import Mathlib.Tactic.IntervalCases
import SignatureSnippets.Http.Service

/-!
# What can be transferred

A text that holds a lone surrogate cannot be put out (`Text.Encodable`), and such texts come
in with the requests, so an answer that gives back what was asked for may be lost on the
way. Escapes bring no surrogate in. A refusal therefore always arrives: it shows a token
in quotes, and quotes escape surrogates. An answer that is a list arrives just when its
items would on their own.
-/

namespace SignatureSnippets

/-! ## Texts -/

namespace Text

/-- Whether a text can be put out: it holds no lone surrogate. -/
def Encodable (cs : List Char) : Prop :=
  ∀ c ∈ cs, isStandIn c = false

instance (cs : List Char) : Decidable (Encodable cs) :=
  decidable_of_iff (cs.all fun c => !isStandIn c) (by simp [Encodable])

theorem unencodable?_eq_none_iff {cs : List Char} : unencodable? cs = none ↔ Encodable cs := by
  have hiff : (cs.dropWhile fun c => !isStandIn c) = [] ↔ Encodable cs := by
    simp only [List.dropWhile_eq_nil_iff, Bool.not_eq_true', Encodable]
  rw [unencodable?, ← hiff]
  cases cs.dropWhile fun c => !isStandIn c with
  | nil => exact ⟨fun _ => rfl, fun _ => rfl⟩
  | cons c rest => exact ⟨nofun, nofun⟩

@[simp] theorem encodable_nil : Encodable [] := nofun

@[simp] theorem encodable_cons {c : Char} {cs : List Char} :
    Encodable (c :: cs) ↔ isStandIn c = false ∧ Encodable cs :=
  List.forall_mem_cons

@[simp] theorem encodable_append {first second : List Char} :
    Encodable (first ++ second) ↔ Encodable first ∧ Encodable second :=
  List.forall_mem_append

theorem encodable_flatMap {f : Char → List Char} {cs : List Char}
    (h : ∀ c ∈ cs, Encodable (f c)) : Encodable (cs.flatMap f) :=
  List.forall_mem_flatMap.mpr h

theorem encodable_intercalate {between : String} (hbetween : Encodable between.toList)
    (parts : List String) :
    Encodable (between.intercalate parts).toList ↔ ∀ part ∈ parts, Encodable part.toList := by
  induction parts with
  | nil => simp
  | cons part rest ih =>
      cases rest with
      | nil => simp
      | cons next rest =>
          rw [String.intercalate_cons_cons, String.toList_append, String.toList_append,
            encodable_append, encodable_append, ih,
            List.forall_mem_cons (p := fun part => Encodable part.toList) (a := part)]
          exact and_congr_left fun _ => and_iff_left hbetween

/-! ## Escapes and quotes -/

theorem isStandIn_eq_false_of_lt {c : Char} (h : c.toNat < 128) : isStandIn c = false := by
  have hlt : ¬ firstStandIn ≤ c.toNat := by
    rw [firstStandIn]
    omega
  rw [isStandIn, decide_eq_false hlt, Bool.false_and]

theorem encodable_toString (n : Nat) : Encodable (toString n).toList := by
  intro c hc
  rw [Nat.toString_eq_repr, Nat.toList_repr] at hc
  have hdigit := Nat.isDigit_of_mem_toDigits (by decide) (by decide) hc
  simp only [Char.isDigit, Bool.and_eq_true, decide_eq_true_eq] at hdigit
  have hle : c.toNat ≤ 57 := hdigit.2
  exact isStandIn_eq_false_of_lt (by omega)

theorem isStandIn_digitChar {n : Nat} (h : n < 16) : isStandIn (Nat.digitChar n) = false := by
  interval_cases n <;> rfl

theorem encodable_hexDigits (width n : Nat) : Encodable (hexDigits width n) := by
  induction width generalizing n with
  | zero => exact encodable_nil
  | succ width ih =>
      rw [hexDigits, encodable_append, encodable_cons]
      exact ⟨ih _, isStandIn_digitChar (Nat.mod_lt _ (by decide)), encodable_nil⟩

theorem encodable_escape {letter : Char} (hletter : isStandIn letter = false) (width n : Nat) :
    Encodable ('\\' :: letter :: hexDigits width n) := by
  rw [encodable_cons, encodable_cons]
  exact ⟨rfl, hletter, encodable_hexDigits width n⟩

/-- Quotes escape lone surrogates. -/
theorem encodable_quotedChar (mark c : Char) : Encodable (quotedChar mark c) := by
  rw [quotedChar]
  cases hunit : surrogate? c with
  | some unit => exact encodable_escape rfl _ _
  | none =>
      have hc : isStandIn c = false := by
        rw [surrogate?] at hunit
        split at hunit
        · cases hunit
        · next h => simpa using h
      have hplain : Encodable [c] := encodable_cons.mpr ⟨hc, encodable_nil⟩
      dsimp only
      split
      · exact encodable_cons.mpr ⟨rfl, hplain⟩
      split
      · decide
      split
      · decide
      split
      · decide
      split
      · exact hplain
      split
      · exact encodable_escape rfl _ _
      split
      · exact encodable_escape rfl _ _
      · exact encodable_escape rfl _ _

theorem encodable_quoted (text : String) : Encodable (quoted text).toList := by
  have hmark : isStandIn (quoteMark text.toList) = false := by
    rw [quoteMark]
    split <;> rfl
  rw [quoted, String.toList_ofList, List.cons_append, encodable_cons, encodable_append,
    encodable_cons]
  exact ⟨hmark, encodable_flatMap fun c _ => encodable_quotedChar _ c, hmark, encodable_nil⟩

end Text

/-! ## Values -/

namespace Json

theorem encodable_stringChar {c : Char} (h : Text.isStandIn c = false) :
    Text.Encodable (stringChar c) := by
  have hplain : Text.Encodable [c] := Text.encodable_cons.mpr ⟨h, Text.encodable_nil⟩
  rw [stringChar]
  split
  · exact Text.encodable_cons.mpr ⟨rfl, hplain⟩
  split
  · decide
  split
  · decide
  split
  · decide
  split
  · decide
  split
  · decide
  split
  · exact Text.encodable_escape rfl _ _
  · exact hplain

theorem encodable_stringText {text : String} (h : Text.Encodable text.toList) :
    Text.Encodable (stringText text).toList := by
  rw [stringText, String.toList_ofList, List.cons_append, Text.encodable_cons,
    Text.encodable_append, Text.encodable_cons]
  exact ⟨rfl, Text.encodable_flatMap fun c hc => encodable_stringChar (h c hc), rfl,
    Text.encodable_nil⟩

mutual

/-- On a single line nothing depends on the depth. -/
theorem print_compact (depth : Nat) (value : Json) :
    value.print .compact depth = value.compactText := by
  match value with
  | .null => rfl
  | .bool _ => rfl
  | .int _ => rfl
  | .float _ => rfl
  | .str _ => rfl
  | .arr [] => rfl
  | .obj [] => rfl
  | .arr (item :: items) =>
      rw [compactText, print, print, printItems_compact, printItems_compact]
      · rfl
      · nofun
      · nofun
  | .obj (field :: fields) =>
      rw [compactText, print, print, printFields_compact, printFields_compact]
      · rfl
      · nofun
      · nofun

theorem printItems_compact (depth : Nat) (items : List Json) :
    printItems .compact depth items = items.map compactText := by
  match items with
  | [] => rfl
  | item :: items =>
      rw [printItems, print_compact, printItems_compact, List.map_cons]

theorem printFields_compact (depth : Nat) (fields : List (String × Json)) :
    printFields .compact depth fields
      = fields.map fun field => stringText field.1 ++ ":" ++ field.2.compactText := by
  match fields with
  | [] => rfl
  | (name, value) :: fields =>
      rw [printFields, print_compact, printFields_compact, List.map_cons]
      rfl

end

theorem compactText_arr (items : List Json) :
    (Json.arr items).compactText = "[" ++ ",".intercalate (items.map compactText) ++ "]" := by
  cases items with
  | nil => rfl
  | cons item items =>
      rw [compactText, print, printItems_compact]
      · simp [Layout.compact]
      · nofun

theorem compactText_obj (fields : List (String × Json)) :
    (Json.obj fields).compactText
      = "\x7b" ++ ",".intercalate
          (fields.map fun field => stringText field.1 ++ ":" ++ field.2.compactText)
        ++ "\x7d" := by
  cases fields with
  | nil => rfl
  | cons field fields =>
      rw [compactText, print, printFields_compact]
      · simp [Layout.compact]
      · nofun

theorem encodable_arr {items : List Json} :
    Text.Encodable (Json.arr items).compactText.toList
      ↔ ∀ item ∈ items, Text.Encodable item.compactText.toList := by
  have hopened : Text.Encodable "[".toList := by decide
  have hclosed : Text.Encodable "]".toList := by decide
  rw [compactText_arr, String.toList_append, String.toList_append, Text.encodable_append,
    Text.encodable_append, Text.encodable_intercalate (by decide), List.forall_mem_map]
  exact ⟨fun h => h.1.2, fun h => ⟨⟨hopened, h⟩, hclosed⟩⟩

theorem encodable_obj {fields : List (String × Json)}
    (h : ∀ field ∈ fields, Text.Encodable field.1.toList
      ∧ Text.Encodable field.2.compactText.toList) :
    Text.Encodable (Json.obj fields).compactText.toList := by
  have hopened : Text.Encodable "\x7b".toList := by decide
  have hclosed : Text.Encodable "\x7d".toList := by decide
  have hcolon : Text.Encodable ":".toList := by decide
  rw [compactText_obj, String.toList_append, String.toList_append, Text.encodable_append,
    Text.encodable_append, Text.encodable_intercalate (by decide), List.forall_mem_map]
  refine ⟨⟨hopened, fun field hfield => ?_⟩, hclosed⟩
  rw [String.toList_append, String.toList_append, Text.encodable_append, Text.encodable_append]
  exact ⟨⟨encodable_stringText (h field hfield).1, hcolon⟩, (h field hfield).2⟩

end Json

/-! ## Answers -/

theorem StructureError.encodable_summary (error : StructureError) :
    Text.Encodable error.summary.toList := by
  cases error with
  | returnTwice position =>
      exact (by decide : Text.Encodable "Return type assigned twice".toList)
  | unbalanced token position =>
      exact (by decide : Text.Encodable "Unbalanced parentheses".toList)

theorem StructureError.encodable_details (error : StructureError) :
    Text.Encodable error.details.toList := by
  cases error with
  | returnTwice position =>
      change Text.Encodable (_ ++ _ ++ _ : String).toList
      simp only [String.toList_append, Text.encodable_append]
      exact ⟨⟨by decide, Text.encodable_toString position⟩, by decide⟩
  | unbalanced token position =>
      change Text.Encodable (_ ++ _ ++ _ ++ _ ++ _ : String).toList
      simp only [String.toList_append, Text.encodable_append]
      exact ⟨⟨⟨⟨by decide, Text.encodable_quoted _⟩, by decide⟩,
        Text.encodable_toString position⟩, by decide⟩

theorem Expansion.isFinite_toJson (x : Expansion) : x.toJson.isFinite = true := by
  rw [toJson]
  cases x.snippet? <;> cases x.error? <;> rfl

namespace Http

theorem Response.transfer_eq_ok_iff {r : Response} :
    r.transfer = .ok r ↔ r.body.isFinite = true ∧ Text.Encodable r.body.compactText.toList := by
  rw [transfer, ← Text.unencodable?_eq_none_iff]
  cases r.body.isFinite with
  | false => simp
  | true => cases Text.unencodable? r.body.compactText.toList <;> simp

/-- What a malformed signature is answered with always arrives. -/
theorem transfer_structureResponse (error : StructureError) :
    (structureResponse error).transfer = .ok (structureResponse error) := by
  have hdetail : Text.Encodable "detail".toList := by decide
  have hmessage : Text.Encodable "message".toList := by decide
  have hdetails : Text.Encodable "details".toList := by decide
  rw [Response.transfer_eq_ok_iff]
  refine ⟨rfl, Json.encodable_obj ?_⟩
  rw [List.forall_mem_singleton]
  refine ⟨hdetail, Json.encodable_obj ?_⟩
  rw [List.forall_mem_cons, List.forall_mem_singleton]
  exact ⟨⟨hmessage, Json.encodable_stringText error.encodable_summary⟩,
    hdetails, Json.encodable_stringText error.encodable_details⟩

theorem isFinite_expansions (expansions : List Expansion) :
    (Json.arr (expansions.map Expansion.toJson)).isFinite = true := by
  rw [Json.isFinite]
  induction expansions with
  | nil => rfl
  | cons x rest ih => rw [List.map_cons, Json.areFinite, x.isFinite_toJson, ih, Bool.and_self]

/-- A list of expansions arrives just when every one of them would on its own. -/
theorem transfer_expansions_iff (expansions : List Expansion) :
    (Response.mk 200 (.arr (expansions.map Expansion.toJson))).transfer
        = .ok (Response.mk 200 (.arr (expansions.map Expansion.toJson)))
      ↔ ∀ x ∈ expansions, (Response.mk 200 x.toJson).transfer = .ok ⟨200, x.toJson⟩ := by
  simp only [Response.transfer_eq_ok_iff, isFinite_expansions, Expansion.isFinite_toJson,
    true_and, Json.encodable_arr, List.forall_mem_map]

end Http

end SignatureSnippets
