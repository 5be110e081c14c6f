import QueueSupply.Proofs.Config.Documents
import QueueSupply.Proofs.Config.Environment

set_option autoImplicit false

namespace QueueSupply.Config

theorem eq_ofSizes_iff {c : Config} {xs small : UInt64} :
    c = ofSizes xs small ↔ c.xs.toNat = max 8 xs.toNat ∧ c.small.toNat = max 16 small.toNat := by
  have xs_raised : (ofSizes xs small).xs.toNat = max 8 xs.toNat := toNat_atLeast minXs xs
  have small_raised : (ofSizes xs small).small.toNat = max 16 small.toNat :=
    toNat_atLeast minSmall small
  constructor
  · rintro rfl
    exact ⟨xs_raised, small_raised⟩
  · rintro ⟨same_xs, same_small⟩
    rw [← xs_raised] at same_xs
    rw [← small_raised] at same_small
    obtain ⟨c_xs, c_small, _, _⟩ := c
    obtain rfl := UInt64.toNat_inj.mp same_xs
    obtain rfl := UInt64.toNat_inj.mp same_small
    rfl

section Settings

namespace Setting

def xs? : Setting → Option UInt64
  | .xs size => some size
  | .small _ => none

def small? : Setting → Option UInt64
  | .xs _ => none
  | .small size => some size

end Setting

def lastSize (size? : Setting → Option UInt64) (missing : UInt64) (settings : List Setting) :
    UInt64 :=
  (settings.filterMap size?).getLast?.getD missing

variable {size? : Setting → Option UInt64} {missing : UInt64}

theorem lastSize_cons (s : Setting) (settings : List Setting) :
    lastSize size? missing (s :: settings) = lastSize size? ((size? s).getD missing) settings := by
  unfold lastSize
  cases kind : size? s with
  | none => rw [List.filterMap_cons_none kind, Option.getD_none]
  | some size =>
    rw [List.filterMap_cons_some kind, List.getLast?_cons, Option.getD_some, Option.getD_some]

/-- A setting of another kind does not count, wherever it stands. -/
theorem lastSize_other {s : Setting} (other : size? s = none) (before after : List Setting) :
    lastSize size? missing (before ++ s :: after) = lastSize size? missing (before ++ after) := by
  simp only [lastSize, List.filterMap_append, List.filterMap_cons_none other]

/-- What stands before a setting of the kind does not count. -/
theorem lastSize_append {s : Setting} {size : UInt64} (kind : size? s = some size)
    (before after : List Setting) :
    lastSize size? missing (before ++ s :: after) = lastSize size? size after := by
  simp only [lastSize, List.filterMap_append, List.filterMap_cons_some kind, List.getLast?_append,
    List.getLast?_cons, Option.some_or, Option.getD_some]

theorem lastSize_replaced {later : Setting} {size : UInt64} (kind : size? later = some size)
    (earlier : Setting) (before between after : List Setting) :
    lastSize size? missing (before ++ earlier :: (between ++ later :: after)) =
      lastSize size? missing (before ++ (between ++ later :: after)) := by
  rw [← List.cons_append, ← List.append_assoc, ← List.append_assoc, lastSize_append kind,
    lastSize_append kind]

theorem set_ofSizes (xs small : UInt64) (s : Setting) :
    (ofSizes xs small).set s = ofSizes (s.xs?.getD xs) (s.small?.getD small) := by
  cases s with
  | xs size => rfl
  | small size => rfl

theorem foldl_set_ofSizes (settings : List Setting) (xs small : UInt64) :
    settings.foldl set (ofSizes xs small) =
      ofSizes (lastSize Setting.xs? xs settings) (lastSize Setting.small? small settings) := by
  induction settings generalizing xs small with
  | nil => rfl
  | cons s rest ih => rw [List.foldl_cons, set_ofSizes, ih, lastSize_cons, lastSize_cons]

theorem ofSettings_eq_ofSizes (settings : List Setting) :
    ofSettings settings =
      ofSizes (lastSize Setting.xs? 32 settings) (lastSize Setting.small? 256 settings) :=
  foldl_set_ofSizes settings defaultXs defaultSmall

theorem ofSettings_congr {settings settings' : List Setting}
    (xs : lastSize Setting.xs? 32 settings = lastSize Setting.xs? 32 settings')
    (small : lastSize Setting.small? 256 settings = lastSize Setting.small? 256 settings') :
    ofSettings settings = ofSettings settings' := by
  rw [ofSettings_eq_ofSizes, ofSettings_eq_ofSizes, xs, small]

end Settings

theorem toOption_eq_some_iff {ε α : Type} {result : Except ε α} {a : α} :
    result.toOption = some a ↔ result = .ok a := by
  cases result <;> simp [Except.toOption]

inductive Origin
  | sizes (xs small : UInt64)
  | default
  | settings (settings : List Setting)
  | lookup (lookup : String → Option String)
  | environment (env : Environment)
  | document (text : String)

namespace Origin

def config? : Origin → Option Config
  | .sizes xs small => some (ofSizes xs small)
  | .default => some Config.default
  | .settings list => some (ofSettings list)
  | .lookup texts => (ofLookup texts).toOption
  | .environment env => (ofEnvironment env).toOption
  | .document text => ofJsonText? text

/-- The sizes that are asked for, which may be below the minimums. -/
inductive Asks : Origin → UInt64 → UInt64 → Prop
  | sizes (xs small : UInt64) : Asks (.sizes xs small) xs small
  | default : Asks .default 32 256
  | settings (list : List Setting) :
      Asks (.settings list) (lastSize Setting.xs? 32 list) (lastSize Setting.small? 256 list)
  | lookup {texts : String → Option String} {xs small : UInt64} (xs_given : Gives texts xsKey 32 xs)
      (small_given : Gives texts smallKey 256 small) : Asks (.lookup texts) xs small
  | environment {env : Environment} {texts : String → Option String} {xs small : UInt64}
      (xs_decodes : Decodes (env xsKey) (texts xsKey))
      (small_decodes : Decodes (env smallKey) (texts smallKey)) (xs_given : Gives texts xsKey 32 xs)
      (small_given : Gives texts smallKey 256 small) : Asks (.environment env) xs small
  | object {text : String} {members : List (List Char × Json)} {xs small : UInt64}
      (written : Json.Written (objectOf members) text.toList)
      (xs_told : Tells members xsMember 32 xs) (small_told : Tells members smallMember 256 small) :
      Asks (.document text) xs small
  | array {text : String} {items : List Json} {xs small : UInt64}
      (written : Json.Written (.array items) text.toList) (few : items.length ≤ 2)
      (xs_told : TellsAt items 0 32 xs) (small_told : TellsAt items 1 256 small) :
      Asks (.document text) xs small

variable {o : Origin} {c : Config}

theorem exists_asks (made : o.config? = some c) :
    ∃ xs small, o.Asks xs small ∧ c = ofSizes xs small := by
  cases o with
  | sizes xs small => exact ⟨xs, small, .sizes xs small, (Option.some.inj made).symm⟩
  | default => exact ⟨32, 256, .default, (Option.some.inj made).symm⟩
  | settings list =>
    exact ⟨_, _, .settings list, (Option.some.inj made).symm.trans (ofSettings_eq_ofSizes list)⟩
  | lookup texts =>
    obtain ⟨xs, small, xs_given, small_given, eq⟩ :=
      exists_gives_of_ok (toOption_eq_some_iff.mp made)
    exact ⟨xs, small, .lookup xs_given small_given, eq⟩
  | environment env =>
    have read : ofLookup env.text? = .ok c := toOption_eq_some_iff.mp made
    obtain ⟨xs, small, xs_given, small_given, eq⟩ := exists_gives_of_ok read
    exact ⟨xs, small, .environment (env.decodes_text? xsKey) (env.decodes_text? smallKey) xs_given
      small_given, eq⟩
  | document text =>
    obtain ⟨v, parsed, read⟩ := Option.bind_eq_some_iff.mp made
    have written := Json.parse?_eq_some_iff.mp parsed
    rcases exists_of_ofJson? read with ⟨members, rfl⟩ | ⟨items, rfl⟩
    · obtain ⟨xs, small, xs_told, small_told, eq⟩ := ofJson?_objectOf_eq_some_iff.mp read
      exact ⟨xs, small, .object written xs_told small_told, eq⟩
    · obtain ⟨few, xs, small, xs_told, small_told, eq⟩ := ofJson?_array_eq_some_iff.mp read
      exact ⟨xs, small, .array written few xs_told small_told, eq⟩

theorem Asks.config? {xs small : UInt64} (asks : o.Asks xs small) :
    o.config? = some (ofSizes xs small) := by
  cases asks with
  | sizes | default => rfl
  | settings list => exact congrArg some (ofSettings_eq_ofSizes list)
  | lookup xs_given small_given =>
    exact toOption_eq_some_iff.mpr (ofLookup_of_gives xs_given small_given)
  | environment xs_decodes small_decodes xs_given small_given =>
    refine toOption_eq_some_iff.mpr ?_
    rw [ofEnvironment_eq_ofLookup xs_decodes small_decodes]
    exact ofLookup_of_gives xs_given small_given
  | object written xs_told small_told =>
    refine (ofJsonText?_of_written written).trans ?_
    exact ofJson?_objectOf_eq_some_iff.mpr ⟨xs, small, xs_told, small_told, rfl⟩
  | array written few xs_told small_told =>
    refine (ofJsonText?_of_written written).trans ?_
    exact ofJson?_array_eq_some_iff.mpr ⟨few, xs, small, xs_told, small_told, rfl⟩

theorem config?_eq_some_iff : o.config? = some c ↔ ∃ xs small, o.Asks xs small ∧
    c.xs.toNat = max 8 xs.toNat ∧ c.small.toNat = max 16 small.toNat := by
  simp only [← eq_ofSizes_iff]
  constructor
  · exact exists_asks
  · rintro ⟨xs, small, asks, rfl⟩
    exact asks.config?

end Origin

open Setting in
/-- A list of settings makes the configuration of the last size of each kind, with 32 and 256 for
kinds that it does not set. So two settings of different kinds may change places, and a setting may
be left out if one of its kind follows. Whichever way a configuration is made, it is one exactly if
sizes are asked for, and then it has these sizes, raised to 8 and to 16. -/
theorem last_settings_raised_to_minimums :
    (∀ settings, ofSettings settings =
        ofSizes (lastSize xs? 32 settings) (lastSize small? 256 settings)) ∧
      (∀ before after xs small, ofSettings (before ++ .xs xs :: .small small :: after) =
        ofSettings (before ++ .small small :: .xs xs :: after)) ∧
      (∀ before between after earlier later,
        ofSettings (before ++ .xs earlier :: (between ++ .xs later :: after)) =
          ofSettings (before ++ (between ++ .xs later :: after))) ∧
      (∀ before between after earlier later,
        ofSettings (before ++ .small earlier :: (between ++ .small later :: after)) =
          ofSettings (before ++ (between ++ .small later :: after))) ∧
      (∀ (o : Origin) (c : Config), o.config? = some c ↔ ∃ xs small, o.Asks xs small ∧
        c.xs.toNat = max 8 xs.toNat ∧ c.small.toNat = max 16 small.toNat) ∧
      (∀ (o : Origin) (c : Config), o.config? = some c → 8 ≤ c.xs ∧ 16 ≤ c.small) := by
  refine ⟨ofSettings_eq_ofSizes, ?_, ?_, ?_, fun o c => Origin.config?_eq_some_iff, ?_⟩
  · intro before after xs small
    refine ofSettings_congr ?_ ?_
    · rw [lastSize_append rfl, lastSize_other rfl, lastSize_append rfl, lastSize_cons]
      rfl
    · rw [lastSize_other rfl, lastSize_append rfl, lastSize_append rfl, lastSize_cons]
      rfl
  · intro before between after earlier later
    exact ofSettings_congr (lastSize_replaced rfl _ before between after)
      (lastSize_other rfl before _)
  · intro before between after earlier later
    exact ofSettings_congr (lastSize_other rfl before _)
      (lastSize_replaced rfl _ before between after)
  · intro o c made
    obtain ⟨xs, small, -, xs_raised, small_raised⟩ := Origin.config?_eq_some_iff.mp made
    rw [UInt64.le_iff_toNat_le, UInt64.le_iff_toNat_le, xs_raised, small_raised]
    exact ⟨Nat.le_max_left 8 xs.toNat, Nat.le_max_left 16 small.toNat⟩

theorem last_settings_raised_to_minimums_document :
    (Origin.document "\x7b\"xs_buffer_size\": 2\x7d").config? = some (ofSizes 2 256) ∧
      8 ≤ (ofSizes 2 256).xs ∧ 16 ≤ (ofSizes 2 256).small := by
  have read : (Origin.document "\x7b\"xs_buffer_size\": 2\x7d").config? =
      some (ofSizes 2 256) := by
    decide +kernel
  exact ⟨read, last_settings_raised_to_minimums.2.2.2.2.2 _ _ read⟩

/-- A size that was raised is replaced like any other. -/
example : ofSettings [.xs 64, .small 4, .small 512] = ofSizes 64 512 := by decide

end QueueSupply.Config
