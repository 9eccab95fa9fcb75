import Mathlib.Order.Monotone.Basic
import SignatureSnippets.Settings.Session

/-!
# What a session remembers

Settings that were built once are given again until a reload, and a reload or a failed
build leaves nothing behind. That is said here of the answers alone, by their places in
the course of a session: which instance an answer gives, and from which environment it
was built. What is kept between two answers is no part of the statements.

`Moves` lists what an action can do to a session. Two facts follow for the session at
each place of a course, and carry the rest: it keeps what was given before it, as long as
no reload comes in between (`kept_of_gives`), and it keeps nothing else
(`exists_created_of_kept`). The number of builds only grows, so an instance that is
built gets a number that no earlier one has.
-/

namespace SignatureSnippets.Session

/-- The environment that an action leaves. Asking for settings does not change it. -/
def Action.environmentAfter (environment : Environment) : Action → Environment
  | .set entries => (environment.setAll entries).1
  | .unset names => environment.remove names
  | .get => environment
  | .reload => environment

/-! ## What an action can do -/

/-- The action leads from one session to the other, with this answer. -/
inductive Moves (s : Session) : Action → Session → Answer → Prop
  /-- The environment changes. -/
  | change {action : Action} {answer : Answer}
      (hcall : action ≠ .get ∧ action ≠ .reload)
      (hanswer : ∀ settings, answer ≠ .given settings) :
      Moves s action { s with environment := action.environmentAfter s.environment } answer
  /-- The settings that are kept are given. -/
  | give {made : Instance} (hkept : s.kept = some made) :
      Moves s .get s (.given (.ok made))
  /-- Settings are built, because nothing is kept or what is kept is dropped. -/
  | build {action : Action} {settings : Settings}
      (hcall : action = .reload ∨ action = .get ∧ s.kept = none)
      (hbuild : s.sources.settings = .ok settings) :
      Moves s action
        { s with kept := some ⟨s.builds, settings⟩, builds := s.builds + 1 }
        (.given (.ok ⟨s.builds, settings⟩))
  /-- Settings cannot be built, and nothing is kept. -/
  | fail {action : Action} {found : List Violation}
      (hcall : action = .reload ∨ action = .get ∧ s.kept = none)
      (hbuild : s.sources.settings = .error found) :
      Moves s action { s with kept := none } (.given (.error found))

theorem build_moves {s : Session} {action : Action}
    (hcall : action = .reload ∨ action = .get ∧ s.kept = none) :
    Moves s action (build { s with kept := none }).1
      (.given (build { s with kept := none }).2) := by
  have hsources : sources { s with kept := none } = s.sources := rfl
  rw [build, hsources]
  cases hbuild : s.sources.settings with
  | ok settings => exact .build hcall hbuild
  | error found => exact .fail hcall hbuild

theorem step_moves (s : Session) (action : Action) :
    Moves s action (s.step action).1 (s.step action).2 := by
  match action with
  | .set entries =>
      refine .change ⟨nofun, nofun⟩ fun settings => ?_
      cases hfault : (s.environment.setAll entries).2 <;> simp [step, hfault]
  | .unset names => exact .change ⟨nofun, nofun⟩ fun _ => nofun
  | .get =>
      rw [step, get]
      cases hkept : s.kept with
      | some made => exact .give hkept
      | none =>
          have hsame : { s with kept := none } = s := by rw [← hkept]
          have h := build_moves (.inr ⟨rfl, hkept⟩)
          rw [hsame] at h
          exact h
  | .reload => exact build_moves (.inl rfl)

/-- What settings would be built from changes with the environment alone. -/
theorem Moves.sources_eq {s next : Session} {action : Action} {answer : Answer}
    (h : Moves s action next answer) :
    next.sources = { s.sources with environment := action.environmentAfter s.environment } := by
  cases h with
  | change => rfl
  | give => rfl
  | build hcall | fail hcall =>
      rcases hcall with rfl | ⟨rfl, _⟩ <;> rfl

/-! ## The course of a session -/

/-- The environment and the dotenv file that a session with nothing kept starts with, and
what happens in it. -/
structure Course where
  environment : Environment := []
  dotEnv : String := ""
  actions : List Action

namespace Course

variable (c : Course)

/-- The session that the course starts with. -/
def start : Session :=
  { environment := c.environment, dotEnv := c.dotEnv }

/-- The answer to the action at a place. -/
def answer? (place : Nat) : Option Answer :=
  (c.start.answers c.actions)[place]?

/-- The environment at a place. -/
def environmentAt (place : Nat) : Environment :=
  (c.actions.take place).foldl Action.environmentAfter c.environment

/-- What settings would be built from at a place. -/
def sourcesAt (place : Nat) : Sources :=
  { environment := c.environmentAt place, dotEnv := c.dotEnv }

/-- The action at a place gives an instance. -/
def Gives (place : Nat) (made : Instance) : Prop :=
  c.answer? place = some (.given (.ok made))

/-- The action at a place asks for settings in vain. -/
def Fails (place : Nat) : Prop :=
  ∃ found, c.answer? place = some (.given (.error found))

/-- There is a reload behind one place and no later than at the other. -/
def ReloadBetween (first last : Nat) : Prop :=
  ∃ place, first < place ∧ place ≤ last ∧ c.actions[place]? = some .reload

/-- No action in front of a place gives the instance. -/
def NewAt (place : Nat) (made : Instance) : Prop :=
  ∀ earlier < place, ∀ other, c.Gives earlier other → other.number ≠ made.number

/-- What the action at a place gives is what can be built from the environment there. -/
def BuildsAt (place : Nat) : Prop :=
  match (c.sourcesAt place).settings with
  | .ok settings => ∃ made, c.Gives place made ∧ made.settings = settings ∧ c.NewAt place made
  | .error found => c.answer? place = some (.given (.error found))

/-! ## The session at a place -/

/-- The session at a place. -/
def stateAt (place : Nat) : Session :=
  (c.actions.take place).foldl (fun s action => (s.step action).1) c.start

theorem getElem?_answers (s : Session) (actions : List Action) (place : Nat) :
    (s.answers actions)[place]? = actions[place]?.map fun action =>
      (((actions.take place).foldl (fun s action => (s.step action).1) s).step action).2 := by
  induction actions generalizing s place with
  | nil => rfl
  | cons action actions ih =>
      cases place with
      | zero => rfl
      | succ place => exact ih _ place

variable {c} {place first last : Nat} {action : Action} {made : Instance}

/-- The action at a place answers and leads on from the session there. -/
theorem moves_stateAt (h : c.actions[place]? = some action) :
    ∃ answer, c.answer? place = some answer
      ∧ Moves (c.stateAt place) action (c.stateAt (place + 1)) answer := by
  refine ⟨((c.stateAt place).step action).2, ?_, ?_⟩
  · rw [answer?, getElem?_answers, h]
    rfl
  · have hnext : c.stateAt (place + 1) = ((c.stateAt place).step action).1 := by
      rw [stateAt, List.take_add_one, h, Option.toList_some, List.foldl_append]
      rfl
    rw [hnext]
    exact step_moves _ _

theorem stateAt_of_end (h : c.actions[place]? = none) :
    c.stateAt (place + 1) = c.stateAt place := by
  rw [stateAt, List.take_add_one, h, Option.toList_none, List.append_nil]
  rfl

theorem sources_stateAt (c : Course) (place : Nat) :
    (c.stateAt place).sources = c.sourcesAt place := by
  induction place with
  | zero => rfl
  | succ place ih =>
      cases h : c.actions[place]? with
      | none =>
          rw [stateAt_of_end h, ih, sourcesAt, sourcesAt, environmentAt, environmentAt,
            List.take_add_one, h, Option.toList_none, List.append_nil]
      | some action =>
          obtain ⟨answer, _, hmoves⟩ := moves_stateAt h
          have hbefore : (c.stateAt place).environment = c.environmentAt place :=
            congrArg Sources.environment ih
          have hafter : c.environmentAt (place + 1)
              = action.environmentAfter (c.environmentAt place) := by
            rw [environmentAt, List.take_add_one, h, Option.toList_some, List.foldl_append]
            rfl
          rw [hmoves.sources_eq, ih, hbefore, ← hafter]
          rfl

theorem builds_le_succ (c : Course) (place : Nat) :
    (c.stateAt place).builds ≤ (c.stateAt (place + 1)).builds := by
  cases h : c.actions[place]? with
  | none => rw [stateAt_of_end h]
  | some action =>
      obtain ⟨answer, _, hmoves⟩ := moves_stateAt h
      generalize c.stateAt (place + 1) = next at hmoves ⊢
      cases hmoves with
      | change | give | fail => exact Nat.le_refl _
      | build => exact Nat.le_succ _

theorem builds_mono (c : Course) (h : first ≤ last) :
    (c.stateAt first).builds ≤ (c.stateAt last).builds :=
  monotone_nat_of_le_succ c.builds_le_succ h

/-- The action at a place has settings built. -/
def CallsBuild (c : Course) (place : Nat) : Prop :=
  c.actions[place]? = some .reload
    ∨ c.actions[place]? = some .get ∧ (c.stateAt place).kept = none

/-- The instance is built and given at a place. -/
structure CreatedAt (c : Course) (place : Nat) (made : Instance) : Prop where
  call : c.CallsBuild place
  gives : c.Gives place made
  number : made.number = (c.stateAt place).builds
  next : (c.stateAt (place + 1)).builds = made.number + 1
  settings : (c.sourcesAt place).settings = .ok made.settings

theorem callsBuild (haction : c.actions[place]? = some action)
    (hcall : action = .reload ∨ action = .get ∧ (c.stateAt place).kept = none) :
    c.CallsBuild place := by
  rw [CallsBuild, haction, Option.some.injEq, Option.some.injEq]
  exact hcall

/-- An instance that is given is built in that place or was kept, and is kept from there. -/
theorem Gives.cases (h : c.Gives place made) :
    (c.stateAt (place + 1)).kept = some made
      ∧ (c.actions[place]? = some .get ∧ (c.stateAt place).kept = some made
        ∨ c.CreatedAt place made) := by
  cases haction : c.actions[place]? with
  | none =>
      rw [Gives, answer?, getElem?_answers, haction] at h
      cases h
  | some action =>
      obtain ⟨answer, hanswer, hmoves⟩ := moves_stateAt haction
      have hgives := h
      rw [Gives, hanswer, Option.some.injEq] at h
      generalize hnext : c.stateAt (place + 1) = next at hmoves ⊢
      cases hmoves with
      | change _ hgiven => exact absurd h (hgiven _)
      | give hkept =>
          cases h
          exact ⟨hkept, .inl ⟨rfl, hkept⟩⟩
      | build hcall hbuild =>
          cases h
          rw [sources_stateAt] at hbuild
          exact ⟨rfl, .inr ⟨callsBuild haction hcall, hgives, rfl, by rw [hnext], hbuild⟩⟩
      | fail => cases h

/-- What is kept at a place was built earlier, and not dropped since. -/
theorem exists_created_of_kept (h : (c.stateAt place).kept = some made) :
    ∃ earlier < place, c.CreatedAt earlier made
      ∧ ∀ k, earlier < k → k < place → c.actions[k]? ≠ some .reload := by
  induction place with
  | zero => cases h
  | succ place ih =>
      have hold : (c.stateAt place).kept = some made → c.actions[place]? ≠ some .reload →
          ∃ earlier < place + 1, c.CreatedAt earlier made
            ∧ ∀ k, earlier < k → k < place + 1 → c.actions[k]? ≠ some .reload := by
        intro hkept hno
        obtain ⟨earlier, hlt, hcreated, hbetween⟩ := ih hkept
        refine ⟨earlier, Nat.lt_succ_of_lt hlt, hcreated, fun k hk hlast => ?_⟩
        rcases Nat.lt_succ_iff_lt_or_eq.mp hlast with hlast | rfl
        · exact hbetween k hk hlast
        · exact hno
      cases haction : c.actions[place]? with
      | none =>
          rw [stateAt_of_end haction] at h
          exact hold h (by rw [haction]; nofun)
      | some action =>
          obtain ⟨answer, hanswer, hmoves⟩ := moves_stateAt haction
          generalize hnext : c.stateAt (place + 1) = next at hmoves h
          cases hmoves with
          | change hcall =>
              exact hold h (by rw [haction]; exact fun h => hcall.2 (Option.some.inj h))
          | give => exact hold h (by rw [haction]; nofun)
          | build hcall hbuild =>
              cases h
              rw [sources_stateAt] at hbuild
              refine ⟨place, Nat.lt_succ_self _,
                ⟨callsBuild haction hcall, hanswer, rfl, by rw [hnext], hbuild⟩, ?_⟩
              omega
          | fail => cases h

/-- An instance stays kept until a reload. -/
theorem kept_of_kept (h : (c.stateAt first).kept = some made) (hle : first ≤ last)
    (hno : ∀ k, first ≤ k → k < last → c.actions[k]? ≠ some .reload) :
    (c.stateAt last).kept = some made := by
  induction last, hle using Nat.le_induction with
  | base => exact h
  | succ last hle ih =>
      have hkept := ih fun k hk hlast => hno k hk (Nat.lt_succ_of_lt hlast)
      cases haction : c.actions[last]? with
      | none => rw [stateAt_of_end haction, hkept]
      | some action =>
          obtain ⟨answer, _, hmoves⟩ := moves_stateAt haction
          have hreload : action ≠ .reload := by
            rintro rfl
            exact hno last hle (Nat.lt_succ_self _) haction
          generalize c.stateAt (last + 1) = next at hmoves ⊢
          cases hmoves with
          | change | give => exact hkept
          | build hcall | fail hcall =>
              rcases hcall with rfl | ⟨_, hnone⟩
              · exact absurd rfl hreload
              · rw [hkept] at hnone
                cases hnone

/-! ## The answers of a course -/

theorem kept_of_gives (h : c.Gives first made) (hlt : first < last)
    (hno : ∀ k, first < k → k < last → c.actions[k]? ≠ some .reload) :
    (c.stateAt last).kept = some made :=
  kept_of_kept h.cases.1 hlt hno

theorem Gives.number_lt (h : c.Gives place made) :
    made.number < (c.stateAt (place + 1)).builds := by
  rcases h.cases.2 with ⟨_, hkept⟩ | hcreated
  · obtain ⟨earlier, hlt, hcreated, _⟩ := exists_created_of_kept hkept
    have hle := c.builds_mono (show earlier + 1 ≤ place + 1 by omega)
    have hnext := hcreated.next
    omega
  · have hnext := hcreated.next
    omega

/-- An instance is new where it is built. -/
theorem CreatedAt.newAt (h : c.CreatedAt place made) : c.NewAt place made := by
  intro earlier hlt other hother
  have hnumber := hother.number_lt
  have hle := c.builds_mono (show earlier + 1 ≤ place from hlt)
  have := h.number
  omega

/-- An instance that is given was built there or earlier, behind the last reload. -/
theorem Gives.exists_created (h : c.Gives last made) :
    ∃ first ≤ last, c.CreatedAt first made ∧ ¬ c.ReloadBetween first last := by
  rcases h.cases.2 with ⟨haction, hkept⟩ | hcreated
  · obtain ⟨first, hlt, hcreated, hbetween⟩ := exists_created_of_kept hkept
    refine ⟨first, Nat.le_of_lt hlt, hcreated, ?_⟩
    rintro ⟨k, hk, hlast, hreload⟩
    rcases Nat.lt_or_eq_of_le hlast with hlast | rfl
    · exact hbetween k hk hlast hreload
    · rw [haction] at hreload
      cases hreload
  · refine ⟨last, Nat.le_refl _, hcreated, ?_⟩
    rintro ⟨k, hk, hlast, _⟩
    omega

theorem Gives.asks (h : c.Gives place made) :
    c.actions[place]? = some .get ∨ c.actions[place]? = some .reload := by
  rcases h.cases.2 with ⟨hget, _⟩ | hcreated
  · exact .inl hget
  · rcases hcreated.call with hreload | ⟨hget, _⟩
    · exact .inr hreload
    · exact .inl hget

theorem Gives.unique {other : Instance} (h : c.Gives place made) (h' : c.Gives place other) :
    made = other := by
  rw [Gives, h] at h'
  cases h'
  rfl

theorem gives_of_kept (hget : c.actions[place]? = some .get)
    (hkept : (c.stateAt place).kept = some made) : c.Gives place made := by
  obtain ⟨answer, hanswer, hmoves⟩ := moves_stateAt hget
  generalize c.stateAt (place + 1) = next at hmoves
  cases hmoves with
  | change hcall => exact absurd rfl hcall.1
  | give hkept' =>
      rw [hkept] at hkept'
      cases hkept'
      exact hanswer
  | build hcall | fail hcall =>
      rcases hcall with hreload | ⟨_, hnone⟩
      · cases hreload
      · rw [hkept] at hnone
        cases hnone

theorem gives_of_no_reload (h : c.Gives first made) (hlt : first < last)
    (hget : c.actions[last]? = some .get) (hno : ¬ c.ReloadBetween first last) :
    c.Gives last made := by
  refine gives_of_kept hget (kept_of_gives h hlt ?_)
  exact fun k hk hlast hreload => hno ⟨k, hk, Nat.le_of_lt hlast, hreload⟩

theorem number_eq_iff {a b : Instance} (hlt : first < last) (ha : c.Gives first a)
    (hb : c.Gives last b) : a.number = b.number ↔ ¬ c.ReloadBetween first last := by
  constructor
  · rintro hnumber ⟨k, hk, hlast, hreload⟩
    obtain ⟨made, _, hcreated, hno⟩ := hb.exists_created
    -- The reload is no later than the place where the second instance is built.
    have hmade : k ≤ made := by
      rcases Nat.lt_or_ge made k with hlt | hge
      · exact absurd ⟨k, hlt, hlast, hreload⟩ hno
      · exact hge
    have hbound := ha.number_lt
    have hmono := c.builds_mono (show first + 1 ≤ made by omega)
    have := hcreated.number
    omega
  · intro hno
    rcases hb.asks with hget | hreload
    · rw [(gives_of_no_reload ha hlt hget hno).unique hb]
    · exact absurd ⟨last, hlt, Nat.le_refl _, hreload⟩ hno

theorem CallsBuild.buildsAt (h : c.CallsBuild place) : c.BuildsAt place := by
  obtain ⟨action, haction⟩ : ∃ action, c.actions[place]? = some action := by
    rcases h with h | ⟨h, _⟩ <;> exact ⟨_, h⟩
  obtain ⟨answer, hanswer, hmoves⟩ := moves_stateAt haction
  have hcall := h
  rw [CallsBuild, haction, Option.some.injEq, Option.some.injEq] at hcall
  rw [BuildsAt]
  generalize hnext : c.stateAt (place + 1) = next at hmoves
  cases hmoves with
  | change hno =>
      rcases hcall with hreload | ⟨hget, _⟩
      · exact absurd hreload hno.2
      · exact absurd hget hno.1
  | give hkept =>
      rcases hcall with hreload | ⟨_, hnone⟩
      · cases hreload
      · rw [hkept] at hnone
        cases hnone
  | build _ hbuild =>
      rw [sources_stateAt] at hbuild
      rw [hbuild]
      exact ⟨_, hanswer, rfl, CreatedAt.newAt ⟨h, hanswer, rfl, by rw [hnext], hbuild⟩⟩
  | fail _ hbuild =>
      rw [sources_stateAt] at hbuild
      rw [hbuild]
      exact hanswer

/-- A request has settings built if a reload is behind every instance given so far. -/
theorem buildsAt_of_dropped (hget : c.actions[last]? = some .get)
    (hdropped : ∀ first < last, ∀ made, c.Gives first made → c.ReloadBetween first last) :
    c.BuildsAt last := by
  refine CallsBuild.buildsAt (.inr ⟨hget, ?_⟩)
  rw [Option.eq_none_iff_forall_ne_some]
  intro made hkept
  obtain ⟨first, hlt, hcreated, hbetween⟩ := exists_created_of_kept hkept
  obtain ⟨k, hk, hlast, hreload⟩ := hdropped first hlt made hcreated.gives
  rcases Nat.lt_or_eq_of_le hlast with hlast | rfl
  · exact hbetween k hk hlast hreload
  · rw [hget] at hreload
    cases hreload

theorem Fails.not_gives (h : c.Fails place) : ¬ c.Gives place made := by
  intro hgives
  obtain ⟨found, hfound⟩ := h
  rw [Gives, hfound] at hgives
  cases hgives

theorem Fails.asks (h : c.Fails place) :
    c.actions[place]? = some .get ∨ c.actions[place]? = some .reload := by
  obtain ⟨found, hfound⟩ := h
  cases haction : c.actions[place]? with
  | none =>
      rw [answer?, getElem?_answers, haction] at hfound
      cases hfound
  | some action =>
      obtain ⟨answer, hanswer, hmoves⟩ := moves_stateAt haction
      rw [hanswer, Option.some.injEq] at hfound
      generalize c.stateAt (place + 1) = next at hmoves
      cases hmoves with
      | change _ hgiven => exact absurd hfound (hgiven _)
      | give | build => cases hfound
      | fail hcall =>
          rcases hcall with rfl | ⟨rfl, _⟩
          · exact .inr rfl
          · exact .inl rfl

theorem buildsAt_of_fails (h : c.Fails first) (hlt : first < last)
    (hget : c.actions[last]? = some .get)
    (hnone : ∀ k, first < k → k < last → ∀ made, ¬ c.Gives k made) : c.BuildsAt last := by
  refine buildsAt_of_dropped hget fun k hk made hgives => ?_
  rcases Nat.lt_trichotomy k first with hfirst | rfl | hfirst
  · -- What was given in front of the failure would have been given there as well.
    by_contra hno
    rcases h.asks with hask | hreload
    · refine h.not_gives (gives_of_no_reload hgives hfirst hask ?_)
      rintro ⟨m, hm, hle, hreload⟩
      exact hno ⟨m, hm, Nat.le_of_lt (Nat.lt_of_le_of_lt hle hlt), hreload⟩
    · exact hno ⟨first, hfirst, Nat.le_of_lt hlt, hreload⟩
  · exact absurd hgives h.not_gives
  · exact absurd hgives (hnone k hfirst hk made)

/-- What the answers of a session show of the settings that it keeps. -/
structure Memoises (c : Course) : Prop where
  /-- An instance holds what could be built at the place where it was first given. -/
  created : ∀ place made, c.Gives place made → ∃ first ≤ place,
    c.Gives first made ∧ c.NewAt first made
      ∧ (c.sourcesAt first).settings = .ok made.settings
  same_iff : ∀ first last a b, first < last → c.Gives first a → c.Gives last b →
    (a.number = b.number ↔ ¬ c.ReloadBetween first last)
  kept : ∀ first last made, first < last → c.Gives first made →
    ¬ c.ReloadBetween first last → c.actions[last]? = some .get → c.Gives last made
  reloaded : ∀ place, c.actions[place]? = some .reload → c.BuildsAt place
  dropped : ∀ place, c.actions[place]? = some .get →
    (∀ first < place, ∀ made, c.Gives first made → c.ReloadBetween first place) →
    c.BuildsAt place
  /-- Behind a build that failed settings are built anew. -/
  failed : ∀ first last, first < last → c.Fails first → c.actions[last]? = some .get →
    (∀ k, first < k → k < last → ∀ made, ¬ c.Gives k made) → c.BuildsAt last

theorem memoises (c : Course) : c.Memoises := by
  constructor
  · intro place made h
    obtain ⟨first, hle, hcreated, _⟩ := h.exists_created
    exact ⟨first, hle, hcreated.gives, hcreated.newAt, hcreated.settings⟩
  · exact fun first last a b hlt ha hb => number_eq_iff hlt ha hb
  · exact fun first last made hlt h hno hget => gives_of_no_reload h hlt hget hno
  · exact fun place hreload => CallsBuild.buildsAt (.inl hreload)
  · exact fun place hget hdropped => buildsAt_of_dropped hget hdropped
  · exact fun first last hlt h hget hnone => buildsAt_of_fails h hlt hget hnone

end Course

end SignatureSnippets.Session
