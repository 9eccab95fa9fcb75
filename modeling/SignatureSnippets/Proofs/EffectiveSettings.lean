import Mathlib.Logic.ExistsUnique
import Mathlib.Tactic.Choose
import Mathlib.Tactic.SplitIfs
import SignatureSnippets.Settings.Sources

/-!
# The values that count

A setting has one value that counts: the one from the source of highest priority that gives
it any, where what holds usually is given by a source of its own, the last one
(`Sources.Effective`). The settings that are built are what these values say, and nothing
else of the sources matters. Where some of the values say nothing, each setting with such a
value is complained of once, in the order of the settings.

The six checks are alike for this. What one of them complains of is `Setting.complaint?`, and
checks side by side complain of what each of them does (`Checked.complaints_both`), so all
complaints are found by going through the settings one by one
(`Sources.complaints_settings`).
-/

namespace SignatureSnippets

/-! ## Names in lists of entries -/

namespace Variables

variable {α : Type} {name : String} {value : α} {entries : List (String × α)}

/-- The first of the entries that has the name, in any case, has the value. -/
def FirstNamed (name : String) (value : α) (entries : List (String × α)) : Prop :=
  ∃ before spelling after, entries = before ++ (spelling, value) :: after ∧
    spelling.toLower = name ∧ ∀ entry ∈ before, entry.1.toLower ≠ name

/-- The last of the entries that has the name, in any case, has the value. -/
def LastNamed (name : String) (value : α) (entries : List (String × α)) : Prop :=
  ∃ before spelling after, entries = before ++ (spelling, value) :: after ∧
    spelling.toLower = name ∧ ∀ entry ∈ after, entry.1.toLower ≠ name

theorem first?_eq_some_iff : first? name entries = some value ↔ FirstNamed name value entries := by
  rw [first?, Option.map_eq_some_iff]
  constructor
  · rintro ⟨⟨spelling, _⟩, hfind, rfl⟩
    obtain ⟨hname, before, after, heq, hbefore⟩ := List.find?_eq_some_iff_append.mp hfind
    exact ⟨before, spelling, after, heq, of_decide_eq_true hname, fun entry hentry => by
      simpa using hbefore entry hentry⟩
  · rintro ⟨before, spelling, after, heq, hname, hbefore⟩
    refine ⟨(spelling, value), List.find?_eq_some_iff_append.mpr ?_, rfl⟩
    exact ⟨decide_eq_true hname, before, after, heq, fun entry hentry => by
      simpa using hbefore entry hentry⟩

theorem last?_eq_some_iff : last? name entries = some value ↔ LastNamed name value entries := by
  rw [last?, first?_eq_some_iff]
  constructor
  · rintro ⟨before, spelling, after, heq, hname, hbefore⟩
    refine ⟨after.reverse, spelling, before.reverse, ?_, hname, fun entry hentry =>
      hbefore entry (List.mem_reverse.mp hentry)⟩
    rw [← List.reverse_reverse entries, heq, List.reverse_append, List.reverse_cons,
      List.append_assoc]
    rfl
  · rintro ⟨before, spelling, after, rfl, hname, hafter⟩
    refine ⟨after.reverse, spelling, before.reverse, ?_, hname, fun entry hentry =>
      hafter entry (List.mem_reverse.mp hentry)⟩
    rw [List.reverse_append, List.reverse_cons, List.append_assoc]
    rfl

end Variables

/-! ## The value that counts -/

/-- Where the value of a setting can come from. -/
inductive Source where
  | overrides
  | environment
  | dotEnv
  | usual
  deriving DecidableEq, Repr

/-- The sources, those of higher priority first. -/
def Source.all : List Source := [.overrides, .environment, .dotEnv, .usual]

/-- The value that a setting has where nothing else is given. -/
def Setting.usual (setting : Setting) : Json :=
  let settings : Settings := {}
  match setting with
  | .style => .str settings.style.name
  | .noise => .str settings.noise
  | .strict => .bool settings.strict
  | .host => .str settings.host
  | .port => .int settings.port
  | .logLevel => .str settings.logLevel.name

namespace Sources

/-- A source gives a value for a setting. A name that stands alone in a dotenv file gives
none. -/
def Gives (s : Sources) (setting : Setting) : Source → Json → Prop
  | .overrides, value => Variables.FirstNamed setting.name value s.overrides
  | .environment, value =>
    ∃ text, Variables.LastNamed (environmentMark ++ setting.name) text s.environment ∧
      .str text = value
  | .dotEnv, value =>
    ∃ text, Variables.LastNamed (environmentMark ++ setting.name) (some text)
      (DotEnv.assignments s.environment s.dotEnv) ∧ .str text = value
  | .usual, value => setting.usual = value

/-- The value comes from the source of highest priority that gives one. -/
def Effective (s : Sources) (setting : Setting) (value : Json) : Prop :=
  ∃ before source after, Source.all = before ++ source :: after ∧
    s.Gives setting source value ∧ ∀ higher ∈ before, ∀ other, ¬ s.Gives setting higher other

/-- What checking finds in a source. -/
def given? (s : Sources) (setting : Setting) : Source → Option Json
  | .overrides => Variables.first? setting.name s.overrides
  | .environment =>
    (Variables.last? (environmentMark ++ setting.name) s.environment).map Json.str
  | .dotEnv =>
    (Variables.last? (environmentMark ++ setting.name)
      (DotEnv.assignments s.environment s.dotEnv)).join.map Json.str
  | .usual => some setting.usual

/-- The value that checking finds. -/
def value (s : Sources) (setting : Setting) : Json :=
  (s.effective? setting).getD setting.usual

variable {s : Sources} {setting : Setting} {value : Json} {source : Source}

theorem gives_iff : s.Gives setting source value ↔ s.given? setting source = some value := by
  cases source with
  | overrides => exact Variables.first?_eq_some_iff.symm
  | environment =>
      simp only [Gives, given?, Option.map_eq_some_iff, Variables.last?_eq_some_iff]
  | dotEnv =>
      simp only [Gives, given?, Option.map_eq_some_iff, Option.join_eq_some_iff,
        Variables.last?_eq_some_iff]
  | usual => exact Option.some_inj.symm

theorem findSome?_given? (s : Sources) (setting : Setting) :
    Source.all.findSome? (s.given? setting) = some (s.value setting) := by
  have hvalue : s.value setting = ((s.given? setting .overrides).or
      ((s.given? setting .environment).or (s.given? setting .dotEnv))).getD setting.usual := by
    rw [Sources.value, effective?, Option.map_or]
    rfl
  rw [hvalue, Source.all, List.findSome?_cons, List.findSome?_cons, List.findSome?_cons]
  cases s.given? setting .overrides <;> cases s.given? setting .environment <;>
    cases s.given? setting .dotEnv <;> rfl

theorem effective_iff : s.Effective setting value ↔ s.value setting = value := by
  rw [← Option.some_inj, ← findSome?_given?, List.findSome?_eq_some_iff]
  simp only [Effective, gives_iff, Option.eq_none_iff_forall_ne_some]

end Sources

/-! ## What a value says of a setting -/

/-- The settings have what the value says of a setting. -/
def Settings.Follows (settings : Settings) : Setting → Json → Prop
  | .style, value => value = .str settings.style.name
  | .noise, value => value = .str settings.noise
  | .strict, value => Check.truth value = .ok settings.strict
  | .host, value => value = .str settings.host
  | .port, value =>
    Check.integer value = .ok settings.port ∧ 1 ≤ settings.port ∧ settings.port ≤ 65535
  | .logLevel, value => value = .str settings.logLevel.name

/-- The value says something of the setting. -/
def Setting.Accepts (setting : Setting) (value : Json) : Prop :=
  ∃ settings : Settings, settings.Follows setting value

/-- What a setting is. -/
def Setting.Value : Setting → Type
  | .style => MarkerStyle
  | .noise => String
  | .strict => Bool
  | .host => String
  | .port => Nat
  | .logLevel => LogLevel

/-- One of the settings. -/
def Settings.get (settings : Settings) : (setting : Setting) → setting.Value
  | .style => settings.style
  | .noise => settings.noise
  | .strict => settings.strict
  | .host => settings.host
  | .port => settings.port
  | .logLevel => settings.logLevel

/-- The check of a setting. -/
def Setting.check : (setting : Setting) → Json → Except Rule setting.Value
  | .style => Check.style
  | .noise => Check.text
  | .strict => Check.truth
  | .host => Check.text
  | .port => Check.port
  | .logLevel => Check.logLevel

namespace Check

variable {value : Json}

theorem style_eq_ok {style : MarkerStyle} :
    Check.style value = .ok style ↔ value = .str style.name := by
  cases value with
  | str name =>
      rw [Check.style, Json.str.injEq, ← MarkerStyle.ofName?_eq_some_iff]
      cases MarkerStyle.ofName? name <;> simp
  | _ => simp [Check.style]

theorem text_eq_ok {text : String} : Check.text value = .ok text ↔ value = .str text := by
  cases value <;> simp [Check.text]

theorem logLevel_eq_ok {level : LogLevel} :
    Check.logLevel value = .ok level ↔ value = .str level.name := by
  cases value with
  | str name =>
      rw [Check.logLevel, Json.str.injEq, ← LogLevel.ofName?_eq_some_iff]
      cases LogLevel.ofName? name <;> simp
  | _ => simp [Check.logLevel]

theorem port_eq_ok {port : Nat} :
    Check.port value = .ok port ↔ Check.integer value = .ok port ∧ 1 ≤ port ∧ port ≤ 65535 := by
  rw [Check.port]
  cases Check.integer value with
  | error rule => simp [bind, Except.bind]
  | ok n =>
      show (if n < 1 then Except.error (Rule.atLeast 1)
        else if 65535 < n then .error (.atMost 65535) else .ok n.toNat) = .ok port
          ↔ Except.ok n = .ok (port : Int) ∧ 1 ≤ port ∧ port ≤ 65535
      split_ifs
      · exact ⟨nofun, fun h => by have := Except.ok.inj h.1; omega⟩
      · exact ⟨nofun, fun h => by have := Except.ok.inj h.1; omega⟩
      · rw [Except.ok.injEq, Except.ok.injEq]
        omega

end Check

theorem Setting.check_eq_ok {setting : Setting} {value : Json} {settings : Settings} :
    setting.check value = .ok (settings.get setting) ↔ settings.Follows setting value := by
  cases setting with
  | style => exact Check.style_eq_ok
  | noise | host => exact Check.text_eq_ok
  | strict => exact Iff.rfl
  | port => exact Check.port_eq_ok
  | logLevel => exact Check.logLevel_eq_ok

theorem Settings.exists_get (setting : Setting) (value : setting.Value) :
    ∃ settings : Settings, settings.get setting = value := by
  cases setting with
  | style => exact ⟨{ style := value }, rfl⟩
  | noise => exact ⟨{ noise := value }, rfl⟩
  | strict => exact ⟨{ strict := value }, rfl⟩
  | host => exact ⟨{ host := value }, rfl⟩
  | port => exact ⟨{ port := value }, rfl⟩
  | logLevel => exact ⟨{ logLevel := value }, rfl⟩

theorem Setting.accepts_iff {setting : Setting} {value : Json} :
    setting.Accepts value ↔ ∃ a, setting.check value = .ok a := by
  constructor
  · rintro ⟨settings, h⟩
    exact ⟨_, Setting.check_eq_ok.mpr h⟩
  · rintro ⟨a, h⟩
    obtain ⟨settings, rfl⟩ := Settings.exists_get setting a
    exact ⟨settings, Setting.check_eq_ok.mp h⟩

/-- What holds usually passes its own check. -/
theorem Setting.check_usual (setting : Setting) :
    setting.check setting.usual = .ok (({} : Settings).get setting) := by
  rw [Setting.check_eq_ok]
  cases setting with
  | strict => rfl
  | port => exact ⟨rfl, by decide, by decide⟩
  | _ => rfl

/-! ## Complaints -/

namespace Checked

variable {ε α β : Type}

/-- What a check complains of. -/
def complaints : Checked ε α → List ε
  | .ok _ => []
  | .error found => found

theorem complaints_both (a : Checked ε α) (b : Checked ε β) :
    complaints (a.both b) = complaints a ++ complaints b := by
  rcases a with es | x <;> rcases b with es' | y <;> simp [both, complaints]

theorem complaints_map (f : α → β) (a : Checked ε α) : complaints (a.map f) = complaints a := by
  rcases a with es | x <;> rfl

end Checked

namespace Sources

variable {s : Sources} {setting : Setting} {settings : Settings}

/-- The check of the value that counts. -/
def checked (s : Sources) (setting : Setting) : Checked Violation setting.Value :=
  (setting.check (s.value setting)).mapError fun rule => [⟨rule, [.field setting.name]⟩]

theorem read_eq (s : Sources) (setting : Setting) :
    s.read setting setting.check (({} : Settings).get setting) = s.checked setting := by
  rw [read, checked, Sources.value]
  cases s.effective? setting with
  | none =>
      rw [Option.getD_none, Setting.check_usual]
      rfl
  | some value =>
      rw [Option.getD_some]
      dsimp only
      cases setting.check value <;> rfl

theorem settings_eq (s : Sources) :
    s.settings = ((s.checked .style).both ((s.checked .noise).both ((s.checked .strict).both
      ((s.checked .host).both ((s.checked .port).both (s.checked .logLevel)))))).map
        fun (style, noise, strict, host, port, logLevel) =>
          { style, noise, strict, host, port, logLevel } := by
  simp only [← read_eq]
  rfl

theorem checked_eq_ok {a : setting.Value} :
    s.checked setting = .ok a ↔ setting.check (s.value setting) = .ok a := by
  rw [checked]
  cases setting.check (s.value setting) <;> simp [Except.mapError]

theorem settings_eq_ok_iff :
    s.settings = .ok settings ↔ ∀ setting, settings.Follows setting (s.value setting) := by
  rw [settings_eq, Checked.map_eq_ok]
  constructor
  · rintro ⟨⟨style, noise, strict, host, port, logLevel⟩, hboth, rfl⟩ setting
    simp only [Checked.both_eq_ok, checked_eq_ok] at hboth
    obtain ⟨hstyle, hnoise, hstrict, hhost, hport, hlogLevel⟩ := hboth
    rw [← Setting.check_eq_ok]
    cases setting with
    | style => exact hstyle
    | noise => exact hnoise
    | strict => exact hstrict
    | host => exact hhost
    | port => exact hport
    | logLevel => exact hlogLevel
  · intro h
    have hchecked : ∀ setting, s.checked setting = .ok (settings.get setting) :=
      fun setting => checked_eq_ok.mpr (Setting.check_eq_ok.mpr (h setting))
    simp only [hchecked]
    exact ⟨_, rfl, rfl⟩

/-- All settings are complained of one by one, in their order. -/
theorem complaints_settings (s : Sources) :
    Checked.complaints s.settings
      = Setting.all.flatMap fun setting => Checked.complaints (s.checked setting) := by
  rw [settings_eq, Checked.complaints_map]
  simp only [Checked.complaints_both, Setting.all, List.flatMap_cons, List.flatMap_nil,
    List.append_nil]

/-- Of each setting whose value says nothing there is one complaint, and it names the
setting. -/
theorem places_complaints (s : Sources) (settings : List Setting) :
    (settings.flatMap fun setting => Checked.complaints (s.checked setting)).map Violation.place
      = (settings.filter fun setting => !(setting.check (s.value setting)).isOk).map
          fun setting => [.field setting.name] := by
  induction settings with
  | nil => rfl
  | cons setting settings ih =>
      rw [List.flatMap_cons, List.map_append, ih, List.filter_cons, checked]
      cases setting.check (s.value setting) <;> rfl

theorem isOk_check {value : Json} :
    (setting.check value).isOk = true ↔ setting.Accepts value := by
  rw [Setting.accepts_iff]
  cases setting.check value <;> simp [Except.isOk, Except.toBool]

theorem exists_settings_iff :
    (∃ settings, s.settings = .ok settings) ↔
      ∀ setting : Setting, setting.Accepts (s.value setting) := by
  simp only [settings_eq_ok_iff]
  constructor
  · rintro ⟨settings, h⟩ setting
    exact ⟨settings, h setting⟩
  · intro h
    choose told htold using h
    refine ⟨⟨(told .style).style, (told .noise).noise, (told .strict).strict, (told .host).host,
      (told .port).port, (told .logLevel).logLevel⟩, fun setting => ?_⟩
    have hsetting := htold setting
    cases setting <;> exact hsetting

theorem inRange_of_settings (h : s.settings = .ok settings) :
    1 ≤ settings.port ∧ settings.port ≤ 65535 ∧
      settings.logLevel.name ∈ ["DEBUG", "INFO", "WARNING", "ERROR", "CRITICAL"] ∧
      settings.style.name ∈ ["textmate", "chocolat", "plain"] := by
  obtain ⟨_, hlow, hhigh⟩ := settings_eq_ok_iff.mp h .port
  refine ⟨hlow, hhigh, ?_, ?_⟩
  · cases settings.logLevel <;> decide
  · cases settings.style <;> decide

theorem exists_faulty {found : List Violation} (h : s.settings = .error found) :
    ∃ faulty : List Setting, faulty.Sublist Setting.all ∧
      (∀ setting, setting ∈ faulty ↔ ¬ setting.Accepts (s.value setting)) ∧
      found.map Violation.place = faulty.map fun setting => [.field setting.name] := by
  refine ⟨Setting.all.filter fun setting => !(setting.check (s.value setting)).isOk,
    List.filter_sublist, fun setting => ?_, ?_⟩
  · have hall : setting ∈ Setting.all := by cases setting <;> decide
    rw [List.mem_filter, and_iff_right hall, ← isOk_check, Bool.not_eq_true', Bool.not_eq_true]
  · have hfound : found = Checked.complaints s.settings := by rw [h, Checked.complaints]
    rw [hfound, complaints_settings, places_complaints]

theorem settings_congr {other : Sources} (h : ∀ setting, s.value setting = other.value setting) :
    s.settings = other.settings := by
  have hchecked : ∀ setting, s.checked setting = other.checked setting := by
    intro setting
    rw [checked, h setting, ← checked]
  simp only [settings_eq, hchecked]

/-- What is built from sources, or complained of, by the values that count. -/
structure Resolves (s : Sources) : Prop where
  effective : ∀ setting, ∃! value, s.Effective setting value
  built_iff : ∀ settings, s.settings = .ok settings ↔
    ∀ setting value, s.Effective setting value → settings.Follows setting value
  succeeds_iff : (∃ settings, s.settings = .ok settings) ↔
    ∀ setting value, s.Effective setting value → setting.Accepts value
  inRange : ∀ settings, s.settings = .ok settings →
    1 ≤ settings.port ∧ settings.port ≤ 65535 ∧
    settings.logLevel.name ∈ ["DEBUG", "INFO", "WARNING", "ERROR", "CRITICAL"] ∧
    settings.style.name ∈ ["textmate", "chocolat", "plain"]
  /-- The complaints name the settings whose values say nothing, each once and in the order of
  the settings. -/
  refused : ∀ found, s.settings = .error found →
    ∃ faulty : List Setting, faulty.Sublist Setting.all ∧
      (∀ setting, setting ∈ faulty ↔
        ∃ value, s.Effective setting value ∧ ¬ setting.Accepts value) ∧
      found.map Violation.place = faulty.map fun setting => [.field setting.name]
  determined : ∀ other : Sources,
    (∀ setting value, s.Effective setting value ↔ other.Effective setting value) →
    s.settings = other.settings

theorem resolves (s : Sources) : s.Resolves where
  effective setting :=
    ⟨s.value setting, effective_iff.mpr rfl, fun _ h => (effective_iff.mp h).symm⟩
  built_iff settings := by
    simp only [settings_eq_ok_iff, effective_iff, forall_eq']
  succeeds_iff := by
    simp only [exists_settings_iff, effective_iff, forall_eq']
  inRange settings := inRange_of_settings
  refused found h := by
    simp only [effective_iff, exists_eq_left']
    exact exists_faulty h
  determined other h := by
    refine settings_congr fun setting => ?_
    exact (effective_iff.mp ((h setting _).mpr (effective_iff.mpr rfl)))

/-- A bad port in the environment does not matter behind a good one from the caller. A truth
value that cannot be read does, although the dotenv file has one that can. -/
example :
    Checked.complaints (Sources.settings
      { overrides := [("api_port", .int 80)]
        environment := [("TERNEXPAND_API_PORT", "x"), ("ternexpand_strict", "maybe")]
        dotEnv := "TERNEXPAND_STRICT=1" })
      = [⟨.truthWord, [.field "strict"]⟩] := by
  decide +kernel

end Sources

end SignatureSnippets
