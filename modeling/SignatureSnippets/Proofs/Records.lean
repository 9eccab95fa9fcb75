import Mathlib.Data.List.Basic
import SignatureSnippets.Signature.Record

/-!
# Types as data and back

A type that is written as data and read again is the same type. The other way round, data
is read as a type just when it has the shape that `IsType` describes, at every level, and
writing the type then gives the data in its full form (`completed`): fields that a function
type does not have are gone, and the fields that were left out are there.

Reading looks a field up by its name, so the levels of a record are not parts of the list of
its fields. `Record.induction` says which parts reading goes into, and the proofs follow it.
-/

namespace SignatureSnippets.Record

/-! ## The shape and the full form of data -/

/-- The value stands for a type: a text, or an object whose arguments, where it has them, are
a list of types, and whose return type, where it has one, is null or a type. -/
inductive IsType : Json → Prop
  | name (text : String) : IsType (.str text)
  | fn {fields : List (String × Json)}
      (hlist : ∀ value, fields.lookup "args" = some value → ∃ items, value = .arr items)
      (hargs : ∀ items, fields.lookup "args" = some (.arr items) → ∀ item ∈ items, IsType item)
      (hret : ∀ value, fields.lookup "ret" = some value → value ≠ .null → IsType value) :
      IsType (.obj fields)

/-- The value stands for a function type. -/
def IsFunction (j : Json) : Prop :=
  (∃ fields, j = .obj fields) ∧ IsType j

mutual

/-- The value with nothing but the fields of function types, and with all of them, at every
level. -/
def completed : Json → Json
  | .arr items => .arr (completedItems items)
  | .obj fields =>
    .obj [("args", ((completedFields fields).lookup "args").getD (.arr [])),
      ("ret", ((completedFields fields).lookup "ret").getD .null)]
  | value => value

/-- The items of a list in their full form. -/
def completedItems : List Json → List Json
  | [] => []
  | item :: items => completed item :: completedItems items

/-- The values of all fields in their full form. -/
def completedFields : List (String × Json) → List (String × Json)
  | [] => []
  | (name, value) :: fields => (name, completed value) :: completedFields fields

end

variable {fields : List (String × Json)} {items : List Json} {value j : Json}

theorem lookup_completedFields (name : String) (fields : List (String × Json)) :
    (completedFields fields).lookup name = (fields.lookup name).map completed := by
  induction fields with
  | nil => rfl
  | cons field fields ih =>
      rw [completedFields, List.lookup_cons, List.lookup_cons, ih]
      cases name == field.1 <;> rfl

theorem isType_obj :
    IsType (.obj fields) ↔
      (∀ value, fields.lookup "args" = some value →
        ∃ items, value = .arr items ∧ ∀ item ∈ items, IsType item) ∧
      (∀ value, fields.lookup "ret" = some value → value ≠ .null → IsType value) := by
  constructor
  · intro h
    cases h with
    | fn hlist hargs hret =>
        refine ⟨fun value hvalue => ?_, hret⟩
        obtain ⟨items, rfl⟩ := hlist value hvalue
        exact ⟨items, rfl, hargs items hvalue⟩
  · rintro ⟨hargs, hret⟩
    refine .fn (fun value hvalue => ?_) (fun items hitems => ?_) hret
    · obtain ⟨items, rfl, _⟩ := hargs value hvalue
      exact ⟨items, rfl⟩
    · obtain ⟨_, heq, hitem⟩ := hargs _ hitems
      cases heq
      exact hitem

/-! ## What reading goes into -/

theorem sizeOf_lt_of_lookup {name : String} (h : fields.lookup name = some value) :
    sizeOf value < sizeOf (Json.obj fields) := by
  obtain ⟨before, after, rfl, _⟩ := List.lookup_eq_some_iff.mp h
  have hmem : (name, value) ∈ before ++ (name, value) :: after := by simp
  have hlt := List.sizeOf_lt_of_mem hmem
  simp only [Prod.mk.sizeOf_spec] at hlt
  simp only [Json.obj.sizeOf_spec]
  omega

theorem induction {P : Json → Prop} (leaf : ∀ j, j.obj? = none → P j)
    (obj : ∀ fields,
      (∀ items, fields.lookup "args" = some (.arr items) → ∀ item ∈ items, P item) →
      (∀ value, fields.lookup "ret" = some value → P value) → P (.obj fields))
    (j : Json) : P j := by
  match j with
  | .obj fields =>
      apply obj fields
      · intro items hitems item hitem
        exact induction leaf obj item
      · intro value hvalue
        exact induction leaf obj value
  | .null | .bool _ | .int _ | .float _ | .str _ | .arr _ => exact leaf _ rfl
termination_by sizeOf j
decreasing_by
  · have hlist := sizeOf_lt_of_lookup hitems
    have hlt := List.sizeOf_lt_of_mem hitem
    simp only [Json.arr.sizeOf_spec] at hlist
    omega
  · exact sizeOf_lt_of_lookup hvalue

/-! ## Reading level by level -/

theorem type_obj {t : SigType} :
    type (.obj fields) = .ok t ↔
      ∃ args ret, argsField fields = .ok args ∧ retField fields = .ok ret ∧ t = .fn args ret := by
  rw [type]
  cases argsField fields <;> cases retField fields <;> simp [Checked.both, eq_comm]

theorem args_cons {place : Nat} {item : Json} {ts : List SigType} :
    args place (item :: items) = .ok ts ↔
      ∃ t rest, type item = .ok t ∧ args (place + 1) items = .ok rest ∧ t :: rest = ts := by
  rw [args, Checked.map_eq_ok]
  constructor
  · rintro ⟨⟨t, rest⟩, hboth, heq⟩
    obtain ⟨htype, hrest⟩ := Checked.both_eq_ok.mp hboth
    exact ⟨t, rest, Checked.mapErrors_eq_ok.mp htype, hrest, heq⟩
  · rintro ⟨t, rest, htype, hrest, heq⟩
    exact ⟨(t, rest), Checked.both_eq_ok.mpr ⟨Checked.mapErrors_eq_ok.mpr htype, hrest⟩, heq⟩

theorem argsField_eq (fields : List (String × Json)) :
    argsField fields = match fields.lookup "args" with
      | none => .ok []
      | some (.arr items) => (args 0 items).mapErrors (Violation.within (.field "args"))
      | some _ => .error [⟨.list, [.field "args"]⟩] := by
  induction fields with
  | nil => rfl
  | cons field fields ih =>
      obtain ⟨name, value⟩ := field
      rw [argsField.eq_def]
      dsimp only
      by_cases hname : name = "args"
      · rw [if_pos hname, hname, List.lookup_cons_self]
        cases value <;> rfl
      · rw [if_neg hname, List.lookup_cons, beq_eq_false_iff_ne.mpr (Ne.symm hname), ih]

theorem retField_eq (fields : List (String × Json)) :
    retField fields = match fields.lookup "ret" with
      | none => .ok none
      | some .null => .ok none
      | some value => ((type value).mapErrors (Violation.within (.field "ret"))).map some := by
  induction fields with
  | nil => rfl
  | cons field fields ih =>
      obtain ⟨name, value⟩ := field
      rw [retField.eq_def]
      dsimp only
      by_cases hname : name = "ret"
      · rw [if_pos hname, hname, List.lookup_cons_self]
        cases value <;> rfl
      · rw [if_neg hname, List.lookup_cons, beq_eq_false_iff_ne.mpr (Ne.symm hname), ih]

theorem argsField_of_list (h : fields.lookup "args" = some (.arr items)) :
    argsField fields = (args 0 items).mapErrors (Violation.within (.field "args")) := by
  rw [argsField_eq, h]

theorem retField_of_some (h : fields.lookup "ret" = some value) (hne : value ≠ .null) :
    retField fields = ((type value).mapErrors (Violation.within (.field "ret"))).map some := by
  rw [retField_eq, h]
  cases value with
  | null => exact absurd rfl hne
  | _ => rfl

/-! ## A type that is written -/

theorem toJson_ne_null (t : SigType) : t.toJson ≠ .null := by
  cases t <;> nofun

mutual

theorem type_toJson (t : SigType) : type t.toJson = .ok t := by
  match t with
  | .name text => rfl
  | .fn args ret =>
      refine type_obj.mpr ⟨args, ret, ?_, retField_retToJson ret _, rfl⟩
      rw [argsField_of_list List.lookup_cons_self]
      exact Checked.mapErrors_eq_ok.mpr (args_argsToJson 0 args)

theorem args_argsToJson (place : Nat) (ts : List SigType) :
    args place (SigType.argsToJson ts) = .ok ts := by
  match ts with
  | [] => rfl
  | t :: rest => exact args_cons.mpr ⟨t, rest, type_toJson t, args_argsToJson _ rest, rfl⟩

theorem retField_retToJson (ret : Option SigType) (args : Json) :
    retField [("args", args), ("ret", SigType.retToJson ret)] = .ok ret := by
  match ret with
  | none => rfl
  | some t =>
      rw [SigType.retToJson, retField_of_some rfl (toJson_ne_null t), type_toJson t]
      rfl

end

/-! ## Data that is read -/

theorem toJson_args {place : Nat} {ts : List SigType} (h : args place items = .ok ts)
    (hitems : ∀ item ∈ items, ∀ t, type item = .ok t → t.toJson = completed item) :
    SigType.argsToJson ts = completedItems items := by
  induction items generalizing place ts with
  | nil =>
      cases h
      rfl
  | cons item items ih =>
      obtain ⟨t, rest, htype, hrest, rfl⟩ := args_cons.mp h
      rw [SigType.argsToJson, completedItems, hitems item List.mem_cons_self t htype,
        ih hrest fun other hother => hitems other (List.mem_cons_of_mem item hother)]

theorem toJson_argsField {ts : List SigType} (h : argsField fields = .ok ts)
    (hitems : ∀ items, fields.lookup "args" = some (.arr items) →
      ∀ item ∈ items, ∀ t, type item = .ok t → t.toJson = completed item) :
    Json.arr (SigType.argsToJson ts)
      = ((fields.lookup "args").map completed).getD (.arr []) := by
  cases hargs : fields.lookup "args" with
  | none =>
      rw [argsField_eq, hargs] at h
      cases h
      rfl
  | some value =>
      cases value with
      | arr items =>
          rw [argsField_of_list hargs] at h
          rw [toJson_args (Checked.mapErrors_eq_ok.mp h) (hitems items hargs)]
          rfl
      | _ =>
          rw [argsField_eq, hargs] at h
          cases h

theorem toJson_retField {ret : Option SigType} (h : retField fields = .ok ret)
    (hvalue : ∀ value, fields.lookup "ret" = some value →
      ∀ t, type value = .ok t → t.toJson = completed value) :
    SigType.retToJson ret = ((fields.lookup "ret").map completed).getD .null := by
  cases hret : fields.lookup "ret" with
  | none =>
      rw [retField_eq, hret] at h
      cases h
      rfl
  | some value =>
      by_cases hnull : value = .null
      · subst hnull
        rw [retField_eq, hret] at h
        cases h
        rfl
      · rw [retField_of_some hret hnull, Checked.map_eq_ok] at h
        obtain ⟨t, htype, rfl⟩ := h
        exact hvalue value hret t (Checked.mapErrors_eq_ok.mp htype)

theorem toJson_type {t : SigType} (h : type j = .ok t) : t.toJson = completed j := by
  induction j using induction generalizing t with
  | leaf j hleaf =>
      cases j with
      | str text =>
          cases h
          rfl
      | obj fields => cases hleaf
      | _ => cases h
  | obj fields hitems hvalue =>
      obtain ⟨args, ret, hargs, hret, rfl⟩ := type_obj.mp h
      have hargs' := toJson_argsField hargs fun items hlist item hitem t htype =>
        hitems items hlist item hitem htype
      have hret' := toJson_retField hret fun value hsome t htype => hvalue value hsome htype
      rw [SigType.toJson, completed, lookup_completedFields, lookup_completedFields, hargs', hret']

theorem exists_args {place : Nat} {items : List Json} :
    (∃ ts, args place items = .ok ts) ↔ ∀ item ∈ items, ∃ t, type item = .ok t := by
  induction items generalizing place with
  | nil => exact ⟨fun _ => nofun, fun _ => ⟨[], rfl⟩⟩
  | cons item items ih =>
      rw [List.forall_mem_cons, ← ih]
      constructor
      · rintro ⟨ts, h⟩
        obtain ⟨t, rest, htype, hrest, _⟩ := args_cons.mp h
        exact ⟨⟨t, htype⟩, rest, hrest⟩
      · rintro ⟨⟨t, htype⟩, rest, hrest⟩
        exact ⟨t :: rest, args_cons.mpr ⟨t, rest, htype, hrest, rfl⟩⟩

theorem exists_argsField :
    (∃ ts, argsField fields = .ok ts) ↔
      ∀ value, fields.lookup "args" = some value →
        ∃ items, value = .arr items ∧ ∀ item ∈ items, ∃ t, type item = .ok t := by
  constructor
  · rintro ⟨ts, h⟩ value hargs
    cases value with
    | arr items =>
        rw [argsField_of_list hargs] at h
        exact ⟨items, rfl, exists_args.mp ⟨ts, Checked.mapErrors_eq_ok.mp h⟩⟩
    | _ =>
        rw [argsField_eq, hargs] at h
        cases h
  · intro h
    cases hargs : fields.lookup "args" with
    | none => exact ⟨[], by rw [argsField_eq, hargs]⟩
    | some value =>
        obtain ⟨items, rfl, hitems⟩ := h value hargs
        obtain ⟨ts, hts⟩ := exists_args.mpr hitems
        exact ⟨ts, by rw [argsField_of_list hargs, Checked.mapErrors_eq_ok]; exact hts⟩

theorem exists_retField :
    (∃ ret, retField fields = .ok ret) ↔
      ∀ value, fields.lookup "ret" = some value → value ≠ .null →
        ∃ t, type value = .ok t := by
  constructor
  · rintro ⟨ret, h⟩ value hret hnull
    rw [retField_of_some hret hnull, Checked.map_eq_ok] at h
    obtain ⟨t, htype, _⟩ := h
    exact ⟨t, Checked.mapErrors_eq_ok.mp htype⟩
  · intro h
    cases hret : fields.lookup "ret" with
    | none => exact ⟨none, by rw [retField_eq, hret]⟩
    | some value =>
        by_cases hnull : value = .null
        · exact ⟨none, by rw [retField_eq, hret, hnull]⟩
        · obtain ⟨t, htype⟩ := h value hret hnull
          refine ⟨some t, ?_⟩
          rw [retField_of_some hret hnull, Checked.map_eq_ok]
          exact ⟨t, Checked.mapErrors_eq_ok.mpr htype, rfl⟩

theorem exists_type_obj :
    (∃ t, type (.obj fields) = .ok t) ↔
      (∃ ts, argsField fields = .ok ts) ∧ ∃ ret, retField fields = .ok ret := by
  constructor
  · rintro ⟨t, h⟩
    obtain ⟨ts, ret, hargs, hret, _⟩ := type_obj.mp h
    exact ⟨⟨ts, hargs⟩, ret, hret⟩
  · rintro ⟨⟨ts, hargs⟩, ret, hret⟩
    exact ⟨.fn ts ret, type_obj.mpr ⟨ts, ret, hargs, hret, rfl⟩⟩

theorem exists_type_iff : (∃ t, type j = .ok t) ↔ IsType j := by
  induction j using induction with
  | leaf j hleaf =>
      cases j with
      | str text => exact ⟨fun _ => .name text, fun _ => ⟨.name text, rfl⟩⟩
      | obj fields => cases hleaf
      | _ => exact ⟨nofun, nofun⟩
  | obj fields hitems hvalue =>
      rw [exists_type_obj, exists_argsField, exists_retField, isType_obj]
      refine and_congr (forall₂_congr fun value hargs => exists_congr fun items => ?_)
        (forall₃_congr fun value hret _ => hvalue value hret)
      refine and_congr_right fun hlist => forall₂_congr fun item hitem => ?_
      exact hitems items (hlist ▸ hargs) item hitem

/-! ## Function types -/

theorem ofJson_eq_ok_iff {t : FnType} :
    FnType.ofJson j = .ok t ↔ (∃ fields, j = .obj fields) ∧ type j = .ok t.toSigType := by
  cases j with
  | obj fields =>
      rw [FnType.ofJson, Checked.map_eq_ok, type_obj]
      constructor
      · rintro ⟨⟨args, ret⟩, hboth, rfl⟩
        obtain ⟨hargs, hret⟩ := Checked.both_eq_ok.mp hboth
        exact ⟨⟨fields, rfl⟩, args, ret, hargs, hret, rfl⟩
      · rintro ⟨_, args, ret, hargs, hret, heq⟩
        refine ⟨(args, ret), Checked.both_eq_ok.mpr ⟨hargs, hret⟩, ?_⟩
        cases heq
        rfl
  | _ => exact ⟨nofun, fun h => nomatch h.1⟩

theorem exists_ofJson_iff : (∃ t, FnType.ofJson j = .ok t) ↔ IsFunction j := by
  simp only [ofJson_eq_ok_iff, IsFunction, ← exists_type_iff]
  constructor
  · rintro ⟨t, hobj, htype⟩
    exact ⟨hobj, _, htype⟩
  · rintro ⟨⟨fields, rfl⟩, t, htype⟩
    obtain ⟨args, ret, _, _, rfl⟩ := type_obj.mp htype
    exact ⟨⟨args, ret⟩, ⟨fields, rfl⟩, htype⟩

theorem ofJson_toJson (t : FnType) : FnType.ofJson t.toJson = .ok t :=
  ofJson_eq_ok_iff.mpr ⟨⟨_, rfl⟩, type_toJson t.toSigType⟩

theorem toJson_ofJson {t : FnType} (h : FnType.ofJson j = .ok t) : t.toJson = completed j :=
  toJson_type (ofJson_eq_ok_iff.mp h).2

/-- A function type that is written is read as itself. Data is read just when it has the shape
of a function type, and then as the one that is written as the full form of the data. -/
theorem ofJson_inverts_toJson :
    (∀ t : FnType, FnType.ofJson t.toJson = .ok t) ∧
    ∀ j : Json, ((∃ t, FnType.ofJson j = .ok t) ↔ IsFunction j) ∧
      ∀ t, FnType.ofJson j = .ok t ↔ IsFunction j ∧ t.toJson = completed j := by
  refine ⟨ofJson_toJson, fun j => ⟨exists_ofJson_iff, fun t => ?_⟩⟩
  constructor
  · intro h
    exact ⟨exists_ofJson_iff.mp ⟨t, h⟩, toJson_ofJson h⟩
  · rintro ⟨hshape, hfull⟩
    obtain ⟨read, hread⟩ := exists_ofJson_iff.mpr hshape
    calc FnType.ofJson j = .ok read := hread
      _ = FnType.ofJson read.toJson := (ofJson_toJson read).symm
      _ = FnType.ofJson t.toJson := by rw [toJson_ofJson hread, hfull]
      _ = .ok t := ofJson_toJson t

/-- The full form at two levels. -/
example : completed (.obj [("ret", .obj [("note", .int 1)])])
    = .obj [("args", .arr []), ("ret", .obj [("args", .arr []), ("ret", .null)])] := rfl

end SignatureSnippets.Record
