/-! # Outcomes

A computation ends with a result or with a failure, and a sequence of computations ends
with the first failure. These laws take a sequence apart, and bound the failures of a whole
by the failures of its parts.
-/

namespace SchemaGuard.Outcome

variable {ε α β : Type}

@[simp] theorem pure_eq_ok (a : α) : (pure a : Except ε α) = .ok a := rfl

@[simp] theorem ok_bind (a : α) (next : α → Except ε β) : (Except.ok a >>= next) = next a := rfl

@[simp] theorem error_bind (error : ε) (next : α → Except ε β) :
    (Except.error error >>= next) = .error error := rfl

@[simp] theorem map_ok (f : α → β) (a : α) : Except.map f (.ok a : Except ε α) = .ok (f a) := rfl

@[simp] theorem map_error (f : α → β) (error : ε) :
    Except.map f (.error error) = .error error := rfl

@[simp] theorem mapError_ok {ε' : Type} (f : ε → ε') (a : α) :
    (.ok a : Except ε α).mapError f = .ok a := rfl

@[simp] theorem mapError_error {ε' : Type} (f : ε → ε') (error : ε) :
    (.error error : Except ε α).mapError f = .error (f error) := rfl

theorem bind_eq_ok {outcome : Except ε α} {next : α → Except ε β} {b : β} :
    outcome >>= next = .ok b ↔ ∃ a, outcome = .ok a ∧ next a = .ok b := by
  cases outcome with
  | error error => simp
  | ok a => simp

theorem map_eq_ok {f : α → β} {outcome : Except ε α} {b : β} :
    outcome.map f = .ok b ↔ ∃ a, outcome = .ok a ∧ f a = b := by
  cases outcome with
  | error error => simp
  | ok a => simp

/-- Two sequences agree when their first parts do and the rest agrees on each result. -/
theorem bind_congr {outcome outcome' : Except ε α} {next next' : α → Except ε β}
    (houtcome : outcome = outcome') (hnext : ∀ a, outcome = .ok a → next a = next' a) :
    outcome >>= next = outcome' >>= next' := by
  subst houtcome
  cases outcome with
  | error error => rfl
  | ok a => exact hnext a rfl

/-! ## Kinds of failures -/

/-- An outcome that is a result, or a failure of a kind. -/
def FailsOnly (kind : ε → Prop) (outcome : Except ε α) : Prop :=
  ∀ error, outcome = .error error → kind error

namespace FailsOnly

variable {kind : ε → Prop}

@[simp] theorem ok (a : α) : FailsOnly kind (.ok a) := by
  intro error herror
  cases herror

@[simp] theorem error_iff (error : ε) :
    FailsOnly kind (.error error : Except ε α) ↔ kind error := by
  simp [FailsOnly]

theorem bind {outcome : Except ε α} {next : α → Except ε β} (houtcome : FailsOnly kind outcome)
    (hnext : ∀ a, outcome = .ok a → FailsOnly kind (next a)) :
    FailsOnly kind (outcome >>= next) := by
  cases outcome with
  | error error => simpa using houtcome
  | ok a => exact hnext a rfl

theorem map {outcome : Except ε α} {f : α → β} (houtcome : FailsOnly kind outcome) :
    FailsOnly kind (outcome.map f) := by
  cases outcome with
  | error error => simpa using houtcome
  | ok a => simp

theorem foldlM {step : β → α → Except ε β} (hstep : ∀ b a, FailsOnly kind (step b a))
    {items : List α} {start : β} : FailsOnly kind (items.foldlM step start) := by
  induction items generalizing start with
  | nil => exact ok start
  | cons item rest ih => exact (hstep start item).bind fun _ _ => ih

theorem mono {kind' : ε → Prop} {outcome : Except ε α} (houtcome : FailsOnly kind outcome)
    (hkind : ∀ error, kind error → kind' error) : FailsOnly kind' outcome :=
  fun error herror => hkind error (houtcome error herror)

end FailsOnly

/-! ## Properties of results -/

/-- An outcome that is a failure, or a result with a property. -/
def Yields (property : α → Prop) (outcome : Except ε α) : Prop :=
  ∀ a, outcome = .ok a → property a

namespace Yields

variable {property : α → Prop} {property' : β → Prop}

@[simp] theorem ok_iff (a : α) : Yields property (.ok a : Except ε α) ↔ property a := by
  simp [Yields]

@[simp] theorem error (error : ε) : Yields property (.error error) := by
  intro a ha
  cases ha

theorem bind {outcome : Except ε α} {next : α → Except ε β}
    (hnext : ∀ a, outcome = .ok a → Yields property' (next a)) :
    Yields property' (outcome >>= next) := by
  intro b hb
  obtain ⟨a, ha, hb⟩ := bind_eq_ok.mp hb
  exact hnext a ha b hb

/-- The property of a first result is all that the rest relies on. -/
theorem next {outcome : Except ε α} {next : α → Except ε β} (houtcome : Yields property outcome)
    (hnext : ∀ a, property a → Yields property' (next a)) :
    Yields property' (outcome >>= next) :=
  bind fun a ha => hnext a (houtcome a ha)

theorem map {outcome : Except ε α} {f : α → β} (houtcome : Yields property outcome)
    (hf : ∀ a, property a → property' (f a)) : Yields property' (outcome.map f) := by
  intro b hb
  obtain ⟨a, ha, rfl⟩ := map_eq_ok.mp hb
  exact hf a (houtcome a ha)

theorem foldlM {γ : Type} {step : α → γ → Except ε α} (items : List γ)
    (hstep : ∀ a item, property a → Yields property (step a item)) {start : α}
    (hstart : property start) : Yields property (items.foldlM step start) := by
  induction items generalizing start with
  | nil => exact (ok_iff start).mpr hstart
  | cons item rest ih => exact bind fun a ha => ih (hstep start item hstart a ha)

end Yields

/-! ## Outcomes that are settled -/

/-- An outcome that is a result just when a condition holds, and a failure just when it is refused
with it. -/
structure Settles (outcome : Except ε α) (sound : Prop) (refused : ε → Prop) : Prop where
  ok : (∃ a, outcome = .ok a) ↔ sound
  error : ∀ failure, outcome = .error failure ↔ refused failure

namespace Settles

variable {outcome : Except ε α} {sound : Prop} {refused : ε → Prop}

theorem result (a : α) (hsound : sound) (hrefused : ∀ failure, ¬ refused failure) :
    Settles (.ok a) sound refused := by
  constructor
  · simp [hsound]
  · simp [hrefused]

theorem failure {failure : ε} (hsound : ¬ sound) (hrefused : refused failure)
    (honly : ∀ other, refused other → other = failure) :
    Settles (.error failure : Except ε α) sound refused := by
  constructor
  · simp [hsound]
  · intro other
    rw [Except.error.injEq]
    constructor
    · rintro rfl
      exact hrefused
    · intro hother
      exact (honly other hother).symm

theorem map (houtcome : Settles outcome sound refused) (f : α → β) :
    Settles (outcome.map f) sound refused := by
  constructor
  · rw [← houtcome.ok]
    cases outcome <;> simp
  · intro failure
    rw [← houtcome.error]
    cases outcome <;> simp

theorem mapError {ε' : Type} (houtcome : Settles outcome sound refused) (f : ε → ε') :
    Settles (outcome.mapError f) sound (fun failure => ∃ error, refused error ∧ failure = f error) := by
  constructor
  · rw [← houtcome.ok]
    cases outcome <;> simp
  · intro failure
    simp only [← houtcome.error]
    cases outcome <;> simp [eq_comm]

theorem congr {sound' : Prop} {refused' : ε → Prop} (houtcome : Settles outcome sound refused)
    (hsound : sound ↔ sound') (hrefused : ∀ failure, refused failure ↔ refused' failure) :
    Settles outcome sound' refused' :=
  ⟨houtcome.ok.trans hsound, fun failure => (houtcome.error failure).trans (hrefused failure)⟩

end Settles

/-! ## Agreement of outcomes -/

/-- Two outcomes agree when they are the same failure, or results that are related. -/
def Agree (related : α → β → Prop) : Except ε α → Except ε β → Prop
  | .ok a, .ok b => related a b
  | .error error, .error error' => error = error'
  | _, _ => False

namespace Agree

variable {γ δ : Type} {related : α → β → Prop} {related' : γ → δ → Prop}

/-- Outcomes that agree are the same failure, or results that are related. -/
theorem cases {outcome : Except ε α} {outcome' : Except ε β}
    (hagree : Agree related outcome outcome') :
    (∃ error, outcome = .error error ∧ outcome' = .error error) ∨
      ∃ a b, outcome = .ok a ∧ outcome' = .ok b ∧ related a b := by
  cases outcome with
  | error error =>
      cases outcome' with
      | error error' => exact .inl ⟨error, rfl, congrArg Except.error (Eq.symm hagree)⟩
      | ok b => exact hagree.elim
  | ok a =>
      cases outcome' with
      | error error' => exact hagree.elim
      | ok b => exact .inr ⟨a, b, rfl, rfl, hagree⟩

theorem bind {outcome : Except ε α} {outcome' : Except ε β} {next : α → Except ε γ}
    {next' : β → Except ε δ} (houtcome : Agree related outcome outcome')
    (hnext : ∀ a b, related a b → Agree related' (next a) (next' b)) :
    Agree related' (outcome >>= next) (outcome' >>= next') := by
  obtain ⟨error, rfl, rfl⟩ | ⟨a, b, rfl, rfl, hrelated⟩ := houtcome.cases
  · exact rfl
  · exact hnext a b hrelated

theorem bind_eq {outcome outcome' : Except ε α} {next : α → Except ε γ} {next' : α → Except ε δ}
    (houtcome : outcome = outcome') (hnext : ∀ a, Agree related' (next a) (next' a)) :
    Agree related' (outcome >>= next) (outcome' >>= next') := by
  subst houtcome
  cases outcome with
  | error error => exact rfl
  | ok a => exact hnext a

theorem map {outcome : Except ε α} {outcome' : Except ε β} {f : α → γ} {g : β → δ}
    (houtcome : Agree related outcome outcome')
    (hrelated : ∀ a b, related a b → related' (f a) (g b)) :
    Agree related' (outcome.map f) (outcome'.map g) := by
  obtain ⟨error, rfl, rfl⟩ | ⟨a, b, rfl, rfl, hab⟩ := houtcome.cases
  · exact rfl
  · exact hrelated a b hab

theorem foldlM {step : α → γ → Except ε α} {step' : β → γ → Except ε β} (items : List γ)
    (hstep : ∀ a b item, related a b → Agree related (step a item) (step' b item))
    {start : α} {start' : β} (hstart : related start start') :
    Agree related (items.foldlM step start) (items.foldlM step' start') := by
  induction items generalizing start start' with
  | nil => exact hstart
  | cons item rest ih => exact (hstep start start' item hstart).bind fun _ _ hnext => ih hnext

theorem eq {outcome outcome' : Except ε α} (hagree : Agree Eq outcome outcome') :
    outcome = outcome' := by
  obtain ⟨error, rfl, rfl⟩ | ⟨a, b, rfl, rfl, rfl⟩ := hagree.cases
  · rfl
  · rfl

end Agree

/-! ## Outcomes that succeed together -/

/-- Two outcomes are failures, of whatever kind, or results that are related. -/
def Together (related : α → β → Prop) : Except ε α → Except ε β → Prop
  | .ok a, .ok b => related a b
  | .error _, .error _ => True
  | _, _ => False

namespace Together

variable {γ δ : Type} {related : α → β → Prop} {related' : γ → δ → Prop}

theorem cases {outcome : Except ε α} {outcome' : Except ε β}
    (htogether : Together related outcome outcome') :
    (∃ error error', outcome = .error error ∧ outcome' = .error error') ∨
      ∃ a b, outcome = .ok a ∧ outcome' = .ok b ∧ related a b := by
  cases outcome with
  | error error =>
      cases outcome' with
      | error error' => exact .inl ⟨error, error', rfl, rfl⟩
      | ok b => exact htogether.elim
  | ok a =>
      cases outcome' with
      | error error' => exact htogether.elim
      | ok b => exact .inr ⟨a, b, rfl, rfl, htogether⟩

theorem map {outcome : Except ε α} {outcome' : Except ε β} {f : α → γ} {g : β → δ}
    (htogether : Together related outcome outcome')
    (hrelated : ∀ a b, related a b → related' (f a) (g b)) :
    Together related' (outcome.map f) (outcome'.map g) := by
  obtain ⟨_, _, rfl, rfl⟩ | ⟨a, b, rfl, rfl, hab⟩ := htogether.cases
  · trivial
  · exact hrelated a b hab

theorem mono {outcome : Except ε α} {outcome' : Except ε β} {related' : α → β → Prop}
    (htogether : Together related outcome outcome')
    (hrelated : ∀ a b, related a b → related' a b) : Together related' outcome outcome' := by
  obtain ⟨_, _, rfl, rfl⟩ | ⟨a, b, rfl, rfl, hab⟩ := htogether.cases
  · trivial
  · exact hrelated a b hab

theorem symm {outcome : Except ε α} {outcome' : Except ε β} {related' : β → α → Prop}
    (htogether : Together related outcome outcome')
    (hrelated : ∀ a b, related a b → related' b a) : Together related' outcome' outcome := by
  obtain ⟨_, _, rfl, rfl⟩ | ⟨a, b, rfl, rfl, hab⟩ := htogether.cases
  · trivial
  · exact hrelated a b hab

end Together

/-! ## Successes that carry over -/

/-- A success of the first outcome comes with a related success of the second. -/
def Carries (related : α → β → Prop) (first : Except ε α) (second : Except ε β) : Prop :=
  ∀ a, first = .ok a → ∃ b, second = .ok b ∧ related a b

namespace Carries

variable {γ δ : Type} {related : α → β → Prop} {related' : γ → δ → Prop}

theorem ok {a : α} {b : β} (hrelated : related a b) :
    Carries related (.ok a : Except ε α) (.ok b) := by
  rintro _ ⟨⟩
  exact ⟨b, rfl, hrelated⟩

theorem error (error : ε) (second : Except ε β) : Carries related (.error error) second := by
  intro a ha
  cases ha

theorem bind {first : Except ε α} {second : Except ε β} {next : α → Except ε γ}
    {next' : β → Except ε δ} (hfirst : Carries related first second)
    (hnext : ∀ a b, related a b → Carries related' (next a) (next' b)) :
    Carries related' (first >>= next) (second >>= next') := by
  intro c hc
  obtain ⟨a, ha, hc⟩ := bind_eq_ok.mp hc
  obtain ⟨b, hb, hrelated⟩ := hfirst a ha
  obtain ⟨d, hd, hrelated'⟩ := hnext a b hrelated c hc
  exact ⟨d, bind_eq_ok.mpr ⟨b, hb, hd⟩, hrelated'⟩

theorem bind_same {outcome : Except ε α} {next : α → Except ε γ} {next' : α → Except ε δ}
    (hnext : ∀ a, Carries related' (next a) (next' a)) :
    Carries related' (outcome >>= next) (outcome >>= next') := by
  cases outcome with
  | error failure => exact error failure _
  | ok a => exact hnext a

theorem map {first : Except ε α} {second : Except ε β} {f : α → γ} {g : β → δ}
    (hfirst : Carries related first second)
    (hrelated : ∀ a b, related a b → related' (f a) (g b)) :
    Carries related' (first.map f) (second.map g) := by
  intro c hc
  obtain ⟨a, ha, rfl⟩ := map_eq_ok.mp hc
  obtain ⟨b, hb, hab⟩ := hfirst a ha
  exact ⟨g b, map_eq_ok.mpr ⟨b, hb, rfl⟩, hrelated a b hab⟩

end Carries

/-! ## Outcomes that persist -/

/-- The second outcome is the first one, unless the first is a failure of a kind. -/
def Persists (kind : ε → Prop) (first second : Except ε α) : Prop :=
  first = second ∨ ∃ error, kind error ∧ first = .error error

namespace Persists

variable {kind : ε → Prop}

theorem refl (outcome : Except ε α) : Persists kind outcome outcome :=
  .inl rfl

theorem error {error : ε} (herror : kind error) (second : Except ε α) :
    Persists kind (.error error) second :=
  .inr ⟨error, herror, rfl⟩

theorem bind {first second : Except ε α} {next next' : α → Except ε β}
    (hfirst : Persists kind first second) (hnext : ∀ a, Persists kind (next a) (next' a)) :
    Persists kind (first >>= next) (second >>= next') := by
  obtain rfl | ⟨failure, hfailure, rfl⟩ := hfirst
  · cases first with
    | error failure => exact refl _
    | ok a => exact hnext a
  · exact error hfailure _

theorem map {first second : Except ε α} (hfirst : Persists kind first second) (f : α → β) :
    Persists kind (first.map f) (second.map f) := by
  obtain rfl | ⟨failure, hfailure, rfl⟩ := hfirst
  · exact refl _
  · exact error hfailure _

theorem foldlM {step step' : β → α → Except ε β} (items : List α)
    (hstep : ∀ b item, Persists kind (step b item) (step' b item)) (start : β) :
    Persists kind (items.foldlM step start) (items.foldlM step' start) := by
  induction items generalizing start with
  | nil => exact refl _
  | cons item rest ih => exact (hstep start item).bind ih

/-- An outcome that is no failure of the kind stays as it is. -/
theorem eq {first second : Except ε α} (hfirst : Persists kind first second)
    (hkind : ∀ error, first = .error error → ¬ kind error) : second = first := by
  obtain rfl | ⟨failure, hfailure, rfl⟩ := hfirst
  · rfl
  · exact absurd hfailure (hkind failure rfl)

theorem ok {first second : Except ε α} (hfirst : Persists kind first second) {a : α}
    (hok : first = .ok a) : second = .ok a :=
  (hfirst.eq fun _ herror => by cases hok.symm.trans herror).trans hok

end Persists

end SchemaGuard.Outcome
