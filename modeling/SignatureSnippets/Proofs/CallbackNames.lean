import SignatureSnippets.Proofs.Cleaning

/-!
# The parameters that a placeholder lists

A callback's own parameters are listed in its placeholder by their names. A parameter
that is a callback itself is not expanded again: its type is left out before the names
are cleaned, and of a labelled one only the label is left.

That label is still joined with what stands behind it, and its callback is no longer
there. So it takes the next parameter instead, which is lost (`listed`). Unlabelled
callbacks in between leave nothing behind, so they do not keep the two apart. A list
comes through as a whole exactly if nothing that has a name stands behind a labelled
callback (`listed_eq_names_iff`).
-/

namespace SignatureSnippets

/-- A text that is a name or a type by itself. -/
structure BareName where
  text : String
  ne_empty : text ≠ ""
  no_colon : ':' ∉ text.toList
  no_callback : Names.isCallback text = false

/-- A parameter of a callback. -/
inductive CallbackParam where
  | plain (name : BareName)
  | typed (name type : BareName)
  /-- A callback behind its label. -/
  | labelled (name : BareName) (callback : FnType)
  | unlabelled (callback : FnType)

namespace BareName

variable (name : BareName)

theorem stripType_text : Names.stripType name.text = name.text :=
  Names.stripType_name name.no_colon

theorem stripType_typed (type : String) :
    Names.stripType (name.text ++ ":" ++ type) = name.text :=
  Names.stripType_typed name.ne_empty name.no_callback name.no_colon type

theorem stripType_label : Names.stripType (name.text ++ ":") = name.text := by
  have h := name.stripType_typed ""
  rw [String.append_empty] at h
  exact h

theorem isCallback_label : Names.isCallback (name.text ++ ":") = false := by
  have h := Names.isCallback_typed name.no_callback ""
  rw [String.append_empty] at h
  exact h

theorem getLast?_text : name.text.toList.getLast? ≠ some ':' := by
  intro h
  exact name.no_colon (List.mem_of_getLast? h)

end BareName

namespace CallbackParam

/-- The arguments that a parameter is given as. -/
def items : CallbackParam → List SigType
  | .plain name => [.name name.text]
  | .typed name type => [.name (name.text ++ ":" ++ type.text)]
  | .labelled name callback => [.name (name.text ++ ":"), callback.toSigType]
  | .unlabelled callback => [callback.toSigType]

def name? : CallbackParam → Option String
  | .plain name => some name.text
  | .typed name _ => some name.text
  | .labelled name _ => some name.text
  | .unlabelled _ => none

def names (params : List CallbackParam) : List String :=
  params.filterMap name?

/-- What is left of a parameter when function types are left out. -/
def leaf? : CallbackParam → Option String
  | .plain name => some name.text
  | .typed name type => some (name.text ++ ":" ++ type.text)
  | .labelled name _ => some (name.text ++ ":")
  | .unlabelled _ => none

/-- The names that are listed, where `label` says whether the last one was the label of a
callback: then the next name is lost to it. -/
def listed (label : Bool) : List CallbackParam → List String
  | [] => []
  | .plain name :: params =>
    if label then listed false params else name.text :: listed false params
  | .typed name _ :: params =>
    if label then listed false params else name.text :: listed false params
  | .labelled name _ :: params =>
    if label then listed false params else name.text :: listed true params
  | .unlabelled _ :: params => listed label params

variable {params : List CallbackParam}

theorem leaves_items (params : List CallbackParam) (ret : Option SigType) :
    FnType.leaves ⟨params.flatMap items, ret⟩ = params.filterMap leaf? := by
  show (params.flatMap items).filterMap SigType.nameText? = _
  induction params with
  | nil => rfl
  | cons p params ih =>
      rw [List.flatMap_cons, List.filterMap_append, ih]
      cases p <;> rfl

/-! ## What is listed -/

/-- Cleaning lists the names, with and without a label in front that has lost its
callback. -/
theorem clean_leaves (params : List CallbackParam) :
    Names.clean (params.filterMap leaf?) = listed false params ∧
      ∀ label : BareName, Names.clean ((label.text ++ ":") :: params.filterMap leaf?)
        = label.text :: listed true params := by
  induction params with
  | nil =>
      refine ⟨rfl, fun label => ?_⟩
      rw [List.filterMap_nil, Names.clean_singleton (by simp), label.stripType_label]
      rfl
  | cons p params ih =>
      obtain ⟨hrest, hlabel⟩ := ih
      -- Whatever a label takes, it is listed by its own name.
      have htake : ∀ (label : BareName) (text : String), text ≠ "" →
          Names.isCallback text = false →
          Names.clean ((label.text ++ ":") :: text :: params.filterMap leaf?)
            = label.text :: listed false params := by
        intro label text hne hplain
        rw [Names.clean_label label.ne_empty hne hplain, label.stripType_text, hrest]
      cases p with
      | plain name =>
          refine ⟨?_, fun label => htake label name.text name.ne_empty name.no_callback⟩
          have hkeep := @Names.clean_keep name.text (params.filterMap leaf?) name.ne_empty
            name.getLast?_text
          rw [name.stripType_text, hrest] at hkeep
          exact hkeep
      | typed name type =>
          have hne : name.text ++ ":" ++ type.text ≠ "" := by simp
          have hlast : (name.text ++ ":" ++ type.text).toList.getLast? ≠ some ':' := by
            have htype : type.text.toList ≠ [] := by simpa using type.ne_empty
            rw [String.toList_append, List.getLast?_append_of_ne_nil _ htype]
            exact type.getLast?_text
          refine ⟨?_, fun label => htake label _ hne
            (Names.isCallback_typed name.no_callback type.text)⟩
          have hkeep := @Names.clean_keep _ (params.filterMap leaf?) hne hlast
          rw [name.stripType_typed, hrest] at hkeep
          exact hkeep
      | labelled name callback =>
          exact ⟨hlabel name, fun label =>
            htake label _ (by simp) name.isCallback_label⟩
      | unlabelled callback => exact ⟨hrest, hlabel⟩

/-! ## What is lost -/

theorem names_cons_of_some {p : CallbackParam} {name : String} (h : p.name? = some name) :
    names (p :: params) = name :: names params := by
  rw [names, List.filterMap_cons_some h]
  rfl

theorem length_listed_le (label : Bool) (params : List CallbackParam) :
    (listed label params).length ≤ (names params).length := by
  induction params generalizing label with
  | nil => exact Nat.le_refl _
  | cons p params ih =>
      have hfalse := ih false
      have htrue := ih true
      cases p with
      | plain name | typed name type | labelled name callback =>
          rw [names_cons_of_some rfl, List.length_cons]
          cases label <;> simp [listed] <;> omega
      | unlabelled callback => exact ih label

/-- A label without its callback takes a name if there is one to take. -/
theorem listed_true_eq_names_iff : listed true params = names params ↔ names params = [] := by
  induction params with
  | nil => exact ⟨fun _ => rfl, fun _ => rfl⟩
  | cons p params ih =>
      have hlt := length_listed_le false params
      cases p with
      | plain name | typed name type | labelled name callback =>
          rw [names_cons_of_some rfl]
          refine ⟨fun h => ?_, fun h => by cases h⟩
          have hlen := congrArg List.length h
          rw [List.length_cons] at hlen
          change (listed false params).length = _ at hlen
          omega
      | unlabelled callback => exact ih

/-- Nothing that has a name stands behind a labelled callback. -/
def LabelsLast (params : List CallbackParam) : Prop :=
  ∀ before name callback after, params = before ++ .labelled name callback :: after →
    names after = []

theorem labelsLast_cons {p : CallbackParam} :
    LabelsLast (p :: params) ↔
      (∀ name callback, p = .labelled name callback → names params = []) ∧
        LabelsLast params := by
  constructor
  · intro h
    refine ⟨fun name callback hp => h [] name callback params (by rw [hp]; rfl), ?_⟩
    intro before name callback after heq
    exact h (p :: before) name callback after (by rw [heq]; rfl)
  · rintro ⟨hhead, htail⟩ before name callback after heq
    cases before with
    | nil =>
        obtain ⟨hp, hparams⟩ := List.cons.inj heq
        rw [← hparams]
        exact hhead name callback hp
    | cons b before => exact htail before name callback after (List.cons.inj heq).2

theorem labelsLast_of_names_eq_nil (h : names params = []) : LabelsLast params := by
  rintro before name callback after rfl
  rw [names, List.filterMap_append, List.append_eq_nil_iff] at h
  cases h.2

theorem listed_eq_names_iff : listed false params = names params ↔ LabelsLast params := by
  induction params with
  | nil => exact ⟨fun _ => labelsLast_of_names_eq_nil rfl, fun _ => rfl⟩
  | cons p params ih =>
      rw [labelsLast_cons]
      cases p with
      | plain name | typed name type =>
          rw [names_cons_of_some rfl, ← ih]
          change name.text :: listed false params = _ ↔ _
          simp
      | labelled name callback =>
          rw [names_cons_of_some rfl]
          change name.text :: listed true params = _ ↔ _
          rw [List.cons_inj_right, listed_true_eq_names_iff]
          constructor
          · intro hnil
            exact ⟨fun _ _ _ => hnil, labelsLast_of_names_eq_nil hnil⟩
          · intro h
            exact h.1 name callback rfl
      | unlabelled callback =>
          rw [← ih]
          change listed false params = names params ↔ _
          simp

/-- The placeholder of a callback lists, in order, the names of its parameters, but for
each that comes next behind a labelled callback of its own. So no name is lost exactly if
a labelled callback has no parameter with a name behind it. -/
theorem callbackText_items (params : List CallbackParam) (ret : Option SigType) :
    FnType.callbackText ⟨params.flatMap items, ret⟩
        = Names.callbackOpening ++ ", ".intercalate (listed false params) ++
            String.ofList [')', ' ', '\x7b', Marker.secondary.char, '\x7d'] ∧
      (listed false params = names params ↔ LabelsLast params) := by
  refine ⟨?_, listed_eq_names_iff⟩
  rw [FnType.callbackText, leaves_items, (clean_leaves params).1]

/-- The parameters `cb: fn(x)` and `b`. -/
def callbackBeforeName : List CallbackParam :=
  [ .labelled ⟨"cb", by decide, by decide, by decide⟩ ⟨[.name "x"], none⟩,
    .plain ⟨"b", by decide, by decide, by decide⟩ ]

/-- The label takes the name behind its callback, and the placeholder does not list it. -/
theorem callbackText_loses_name :
    names callbackBeforeName = ["cb", "b"] ∧
      FnType.callbackText ⟨callbackBeforeName.flatMap items, none⟩ = "function(cb) \x7b\x1a\x7d" ∧
      FnType.callbackText ⟨callbackBeforeName.flatMap items, none⟩
        ≠ Names.callbackOpening ++ ", ".intercalate (names callbackBeforeName) ++
            String.ofList [')', ' ', '\x7b', Marker.secondary.char, '\x7d'] := by
  refine ⟨rfl, ?_, ?_⟩ <;> decide +kernel

end CallbackParam

end SignatureSnippets
