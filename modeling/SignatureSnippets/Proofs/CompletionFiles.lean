import SignatureSnippets.Proofs.Refusals

/-!
# Completion files in a batch

A batch takes an array of objects, or an object with such an array in its field
`completions`; whatever else its file holds ought to be told of behind the words
`Error: Invalid completions file: `, with exit code one. It is so for a text that is no
JSON and for an array with an item that is no object. But nothing looks at whether there
is an array before its items are taken. A value that cannot have items (`isScalar`) ends
the program at once, as do bytes that are no text and integers that are too long, and a
text or an object without items (`IsHollow`) passes for an empty array.

Which of these a file comes to is decided in the order of its reading: bytes, text,
document, listing, items. Each stage has its own lemmas, and `report_batch` puts them
together for every file.
-/

namespace SignatureSnippets

namespace Completions

variable {file : List UInt8} {text : String} {value : Json}

/-! ## Documents that list completions -/

/-- A document lists completions, each by the fields of its object. -/
inductive Lists : Json → List (List (String × Json)) → Prop
  | array (objects : List (List (String × Json))) : Lists (.arr (objects.map .obj)) objects
  | field {fields : List (String × Json)} {objects : List (List (String × Json))}
      (h : fields.lookup "completions" = some (.arr (objects.map .obj))) :
      Lists (.obj fields) objects
  | missing {fields : List (String × Json)} (h : fields.lookup "completions" = none) :
      Lists (.obj fields) []

/-- The name and the signature that the fields of a completion give. -/
def ofFields (fields : List (String × Json)) : String × String :=
  (fieldText fields "name", fieldText fields "type")

/-- Values that cannot have items. -/
def isScalar : Json → Bool
  | .null | .bool _ | .int _ | .float _ => true
  | .str _ | .arr _ | .obj _ => false

/-- Values of which an array's items could be taken, but that have none. -/
def IsHollow (value : Json) : Prop :=
  value = .str "" ∨ value = .obj []

theorem lists_iff {objects : List (List (String × Json))} :
    Lists value objects ↔ listing value = .arr (objects.map .obj) := by
  constructor
  · intro h
    cases h with
    | array => rfl
    | field h => rw [listing, h, Option.getD_some]
    | missing h => rw [listing, h, Option.getD_none, List.map_nil]
  · intro h
    cases value with
    | arr items =>
        cases h
        exact .array objects
    | obj fields =>
        rw [listing] at h
        cases hfield : fields.lookup "completions" with
        | none =>
            rw [hfield, Option.getD_none, Json.arr.injEq, eq_comm, List.map_eq_nil_iff] at h
            subst h
            exact .missing hfield
        | some found =>
            rw [hfield, Option.getD_some] at h
            exact .field (h ▸ hfield)
    | null | bool | int | float | str => cases h

/-! ## What comes of a document -/

theorem mapM_ofElement_objects (objects : List (List (String × Json))) :
    (objects.map Json.obj).mapM ofElement = .ok (objects.map ofFields) := by
  induction objects with
  | nil => rfl
  | cons fields objects ih =>
      rw [List.map_cons, List.mapM_cons, ih]
      rfl

/-- Items are objects, or one that is none is told of. -/
theorem objects_or_mapM_ofElement (items : List Json) :
    (∃ objects : List (List (String × Json)), items = objects.map .obj) ∨
      ∃ kind, items.mapM ofElement = .error (.notAnObject kind) := by
  induction items with
  | nil => exact .inl ⟨[], rfl⟩
  | cons item items ih =>
      by_cases hitem : ∃ fields, item = .obj fields
      · obtain ⟨fields, rfl⟩ := hitem
        rw [List.mapM_cons]
        obtain ⟨objects, rfl⟩ | ⟨kind, hkind⟩ := ih
        · exact .inl ⟨fields :: objects, rfl⟩
        · refine .inr ⟨kind, ?_⟩
          rw [hkind]
          rfl
      · refine .inr ⟨item.kindName, ?_⟩
        have hrefused : ofElement item = .error (.notAnObject item.kindName) := by
          rw [ofElement]
          exact fun fields h => hitem ⟨fields, h⟩
        rw [List.mapM_cons, hrefused]
        rfl

theorem ofJson_of_lists {objects : List (List (String × Json))} (h : Lists value objects) :
    ofJson value = .ok (objects.map ofFields) := by
  rw [ofJson, lists_iff.mp h]
  exact mapM_ofElement_objects objects

theorem ofJson_of_hollow (h : IsHollow (listing value)) : ofJson value = .ok [] := by
  rw [ofJson]
  obtain h | h := h <;> rw [h] <;> rfl

theorem ofJson_of_scalar (h : isScalar (listing value) = true) :
    ofJson value = .error (.notAList (listing value).kindName) := by
  rw [ofJson]
  cases hlisting : listing value with
  | null | bool | int | float => rfl
  | str | arr | obj =>
      rw [hlisting] at h
      cases h

/-- Any other document has an item that is told of. -/
theorem ofJson_otherwise (hlists : ∀ objects, ¬ Lists value objects)
    (hhollow : ¬ IsHollow (listing value)) (hscalar : isScalar (listing value) = false) :
    ∃ kind, ofJson value = .error (.notAnObject kind) := by
  rw [ofJson]
  cases hlisting : listing value with
  | arr items =>
      obtain ⟨objects, rfl⟩ | hkind := objects_or_mapM_ofElement items
      · exact absurd (lists_iff.mpr hlisting) (hlists objects)
      · exact hkind
  | obj fields =>
      cases fields with
      | nil => exact absurd (.inr hlisting) hhollow
      | cons field fields => exact ⟨"str", rfl⟩
  | str text =>
      have hne : text.toList ≠ [] := by
        intro hnil
        rw [String.toList_eq_nil_iff] at hnil
        exact hhollow (.inl (by rw [hlisting, hnil]))
      obtain ⟨c, cs, hcs⟩ := List.exists_cons_of_ne_nil hne
      refine ⟨"str", ?_⟩
      change (text.toList.map _).mapM ofElement = _
      rw [hcs]
      rfl
  | null | bool | int | float =>
      rw [hlisting] at hscalar
      cases hscalar

/-! ## What comes of a file -/

/-- The text of a file, with its line ends made the same. -/
def fileText (file : List UInt8) : Except Text.Utf8Error String :=
  (Text.decodeUtf8 file).map fun text => String.ofList (Text.unifyLineEnds text.toList)

/-- A file holds a JSON document. -/
def Holds (file : List UInt8) (value : Json) : Prop :=
  ∃ text, fileText file = .ok text ∧ Json.read text = .ok value

/-- A file lists completions. -/
def Listed (file : List UInt8) (objects : List (List (String × Json))) : Prop :=
  ∃ value, Holds file value ∧ Lists value objects

/-- A file has an empty text or an empty object in the place of its list. -/
def Hollow (file : List UInt8) : Prop :=
  ∃ value, Holds file value ∧ IsHollow (listing value)

theorem ofBytes_eq (file : List UInt8) :
    ofBytes file =
      match fileText file with
      | .ok text => ofText text
      | .error error => .error (.undecodable error) := by
  rw [ofBytes, fileText]
  cases Text.decodeUtf8 file <;> rfl

theorem ofBytes_of_undecodable {error : Text.Utf8Error} (h : fileText file = .error error) :
    ofBytes file = .error (.undecodable error) := by
  rw [ofBytes_eq, h]

theorem ofBytes_of_unreadable {error : Json.ReadError} (htext : fileText file = .ok text)
    (h : Json.read text = .error error) :
    ofBytes file = .error (.unreadable error (error.describe text)) := by
  rw [ofBytes_eq, htext]
  dsimp only
  rw [ofText, h]

theorem ofBytes_of_holds (h : Holds file value) : ofBytes file = ofJson value := by
  obtain ⟨text, htext, hread⟩ := h
  rw [ofBytes_eq, htext]
  dsimp only
  rw [ofText, hread]

theorem ofBytes_of_listed {objects : List (List (String × Json))} (h : Listed file objects) :
    ofBytes file = .ok (objects.map ofFields) := by
  obtain ⟨value, hvalue, hlists⟩ := h
  rw [ofBytes_of_holds hvalue, ofJson_of_lists hlists]

theorem ofBytes_of_hollow (h : Hollow file) : ofBytes file = .ok [] := by
  obtain ⟨value, hvalue, hhollow⟩ := h
  rw [ofBytes_of_holds hvalue, ofJson_of_hollow hhollow]

end Completions

namespace Command

open Completions

/-- The report with its output as it is put out. -/
def Report.withPlainLineEnds (r : Report) : Report :=
  { r with output := String.ofList (Text.plainLineEnds r.output.toList) }

/-- Faults of a file that a batch does not look out for. -/
inductive Overlooked (file : List UInt8) : Abort → Prop
  | undecodable {error : Text.Utf8Error} (h : fileText file = .error error) :
      Overlooked file (.undecodable error)
  | tooManyDigits {text : String} {count position : Nat} (htext : fileText file = .ok text)
      (h : Json.read text = .error ⟨.tooManyDigits count, position⟩) :
      Overlooked file (.tooManyDigits count)
  | notAList {value : Json} (hvalue : Holds file value)
      (h : isScalar (listing value) = true) :
      Overlooked file (.notAList (listing value).kindName)

variable {file : List UInt8} {fault : Abort}

/-- The front of the line that tells of an unusable file. -/
theorem invalidFile_front (c : Context)
    (hwidth : "Error: Invalid completions file: ".length ≤ c.terminalWidth) (text : String) :
    "Error: Invalid completions file: ".toList <+:
      (Context.errorLine c.terminalWidth ("Invalid completions file: " ++ text)
        ++ c.trace).toList := by
  have hfront : Text.spaced ["Invalid".toList, "completions".toList, "file:".toList]
      <+: ("Invalid completions file: " ++ text).toList := by
    rw [String.toList_append]
    exact List.prefix_append _ _
  rw [String.toList_append]
  exact (Context.errorLine_spaced _ (by decide) hwidth hwidth hfront).trans
    (List.prefix_append _ _)

theorem Overlooked.completionsFault (h : Overlooked file fault) (c : Context) :
    ∃ e, ofBytes file = .error e ∧ completionsFault c e = aborted fault := by
  cases h with
  | undecodable h => exact ⟨_, ofBytes_of_undecodable h, rfl⟩
  | tooManyDigits htext h => exact ⟨_, ofBytes_of_unreadable htext h, rfl⟩
  | notAList hvalue h =>
      exact ⟨_, (ofBytes_of_holds hvalue).trans (ofJson_of_scalar h), rfl⟩

/-- Whatever else is the matter with a file is told of. -/
theorem completionsFault_otherwise (hlisted : ∀ objects, ¬ Listed file objects)
    (hoverlooked : ∀ fault, ¬ Overlooked file fault) (hhollow : ¬ Hollow file) (c : Context) :
    ∃ e text, ofBytes file = .error e ∧ completionsFault c e =
      { ending := .exit 1
        remarks := Context.errorLine c.terminalWidth
          ("Invalid completions file: " ++ text) ++ c.trace } := by
  cases htext : fileText file with
  | error error => exact absurd (.undecodable htext) (hoverlooked _)
  | ok text =>
      cases hread : Json.read text with
      | error error =>
          refine ⟨_, error.describe text, ofBytes_of_unreadable htext hread, ?_⟩
          obtain ⟨fault, position⟩ := error
          cases fault with
          | tooManyDigits count => exact absurd (.tooManyDigits htext hread) (hoverlooked _)
          | _ => rfl
      | ok value =>
          have hvalue : Holds file value := ⟨text, htext, hread⟩
          have hscalar : isScalar (listing value) = false := by
            rw [Bool.eq_false_iff]
            exact fun h => hoverlooked _ (.notAList hvalue h)
          obtain ⟨kind, hkind⟩ := ofJson_otherwise
            (fun objects hlists => hlisted objects ⟨value, hvalue, hlists⟩)
            (fun h => hhollow ⟨value, hvalue, h⟩) hscalar
          exact ⟨_, _, (ofBytes_of_holds hvalue).trans hkind, rfl⟩

theorem Task.run_batch (t : Task) (terminalWidth : Nat) (hasServer : Bool)
    (style : Option MarkerStyle) (json : Bool) :
    run (t.context terminalWidth) hasServer (.batch file style json) =
      match ofBytes file with
      | .error e => completionsFault (t.context terminalWidth) e
      | .ok items => runCompletions (t.context terminalWidth) t.settings items style json :=
  rfl

/-- What a batch makes of any file. A document that lists completions is expanded, one
name and signature for each object, in order. Faults that are not looked out for end the
program, and what is hollow counts as an empty list. Everything else is told of, in a line
that begins as expected unless the terminal has no room for the words. -/
theorem report_batch {s : Surroundings} {args : List String} {t : Task}
    {style : Option MarkerStyle} {json : Bool} (ht : task? s args = some t)
    (hc : t.command = .batch file style json) :
    let c := t.context s.terminalWidth
    (∀ objects, Listed file objects → report s args =
      (runCompletions c t.settings (objects.map ofFields) style json).withPlainLineEnds) ∧
    (∀ fault, Overlooked file fault → report s args = aborted fault) ∧
    (Hollow file → report s args =
      (runCompletions c t.settings [] style json).withPlainLineEnds) ∧
    ((∀ objects, ¬ Listed file objects) → (∀ fault, ¬ Overlooked file fault) → ¬ Hollow file →
      (report s args).ending = .exit 1 ∧ (report s args).output = "" ∧
      (∃ text, (report s args).remarks = Context.errorLine s.terminalWidth
        ("Invalid completions file: " ++ text) ++ c.trace) ∧
      ("Error: Invalid completions file: ".length ≤ s.terminalWidth →
        "Error: Invalid completions file: ".toList <+: (report s args).remarks.toList)) := by
  intro c
  have hraw := rawReport_of_task? ht
  rw [hc, t.run_batch s.terminalWidth s.hasServer style json] at hraw
  have hreport : report s args = (rawReport s args).withPlainLineEnds := rfl
  refine ⟨fun objects hlisted => ?listed, fun fault hfault => ?overlooked,
    fun hhollow => ?hollow, fun hlisted hoverlooked hhollow => ?otherwise⟩
  case listed => rw [hreport, hraw, ofBytes_of_listed hlisted]
  case overlooked =>
    obtain ⟨e, hfile, hended⟩ := hfault.completionsFault c
    rw [hfile] at hraw
    dsimp only at hraw
    rw [hended] at hraw
    rw [report_eq_rawReport (by rw [hraw]; rfl), hraw]
  case hollow => rw [hreport, hraw, ofBytes_of_hollow hhollow]
  case otherwise =>
    obtain ⟨e, text, hfile, htold⟩ :=
      completionsFault_otherwise hlisted hoverlooked hhollow c
    rw [hfile] at hraw
    dsimp only at hraw
    rw [htold] at hraw
    rw [report_eq_rawReport (by rw [hraw]), hraw]
    exact ⟨rfl, rfl, ⟨text, rfl⟩, fun hwidth => invalidFile_front c hwidth text⟩

/-- An empty text in the place of the list is a batch of nothing. -/
example :
    report { files := [("c.json", "\"\"".toUTF8.data.toList)] } ["batch", "--json", "c.json"]
      = { ending := .exit 0, output := "[]\n" } := by
  decide +kernel

/-- A text with nothing in the place of its completions. -/
def nullText : String :=
  "\x7b\"completions\": null\x7d"

/-- Nothing in the place of the completions ends the program. -/
theorem report_batch_null :
    report { files := [("c.json", nullText.toUTF8.data.toList)] } ["batch", "c.json"]
      = aborted (.notAList "NoneType") := by
  have htext : fileText nullText.toUTF8.data.toList = .ok nullText := by decide +kernel
  have hfound : ((Json.read nullText).toOption.map fun value =>
      (isScalar (listing value), (listing value).kindName)) = some (true, "NoneType") := by
    decide +kernel
  cases hread : Json.read nullText with
  | error error =>
      rw [hread] at hfound
      cases hfound
  | ok value =>
      rw [hread, Except.toOption, Option.map_some, Option.some.injEq, Prod.mk.injEq] at hfound
      rw [← hfound.2]
      exact (report_batch
        (t := ⟨false, {}, .batch nullText.toUTF8.data.toList none false⟩)
        (by decide +kernel) rfl).2.1 _ (.notAList ⟨nullText, htext, hread⟩ hfound.1)

/-- Nothing is told of it. -/
theorem not_report_batch_null :
    let file := nullText.toUTF8.data.toList
    let s : Surroundings := { files := [("c.json", file)] }
    let r := report s ["batch", "c.json"]
    task? s ["batch", "c.json"] = some ⟨false, {}, .batch file none false⟩
      ∧ ofBytes file = .error (.notAList "NoneType")
      ∧ r = { ending := .abort (.notAList "NoneType") }
      ∧ ¬ "Error: Invalid completions file".toList <+: r.remarks.toList :=
  ⟨by decide +kernel, by decide +kernel, by decide +kernel, by decide +kernel⟩

end Command

end SignatureSnippets
