import QueueSupply.Proofs.Config.Lookup
import QueueSupply.Proofs.Fifo.Delivered
import QueueSupply.Proofs.Text.Utf8

set_option autoImplicit false

namespace QueueSupply

open Text

/-- The text that bytes stand for, if there are any and they are UTF-8. -/
inductive Decodes : Option ByteArray → Option String → Prop
  | unset : Decodes none none
  | text {bytes : ByteArray} {text : String} (wellFormed : Utf8 text.toList bytes.data.toList) :
      Decodes (some bytes) (some text)
  | illFormed {bytes : ByteArray} (no_text : ∀ text, ¬ Utf8 text bytes.data.toList) :
      Decodes (some bytes) none

theorem decodes_iff {held : Option ByteArray} {read : Option String} :
    Decodes held read ↔ held.bind String.fromUTF8? = read := by
  constructor
  · intro decodes
    cases decodes with
    | unset => rfl
    | text wellFormed => exact fromUTF8?_eq_some_iff.mpr wellFormed
    | illFormed no_text =>
      rw [Option.bind_some, Option.eq_none_iff_forall_ne_some]
      exact fun text same => no_text text.toList (fromUTF8?_eq_some_iff.mp same)
  · rintro rfl
    cases held with
    | none => exact .unset
    | some bytes =>
      rw [Option.bind_some]
      cases read : String.fromUTF8? bytes with
      | some text => exact .text (fromUTF8?_eq_some_iff.mp read)
      | none =>
        refine .illFormed fun text form => ?_
        rw [← String.toList_ofList (l := text), ← fromUTF8?_eq_some_iff, read] at form
        cases form

theorem Environment.decodes_text? (env : Environment) (key : String) :
    Decodes (env key) (env.text? key) :=
  decodes_iff.mpr rfl

namespace Config

variable {env : Environment} {lookup : String → Option String}

/-- Only what is under the two names matters. -/
theorem ofLookup_congr {lookup' : String → Option String} (xs : lookup xsKey = lookup' xsKey)
    (small : lookup smallKey = lookup' smallKey) : ofLookup lookup = ofLookup lookup' := by
  simp only [ofLookup, lookupSize, xs, small]

theorem ofEnvironment_eq_ofLookup (xs : Decodes (env xsKey) (lookup xsKey))
    (small : Decodes (env smallKey) (lookup smallKey)) : ofEnvironment env = ofLookup lookup :=
  ofLookup_congr (decodes_iff.mp xs) (decodes_iff.mp small)

theorem shared_of_ok {c : Config} (ok : ofEnvironment env = .ok c) : shared env = c := by
  rw [shared, ok]

theorem shared_of_error {e : ConfigError} (error : ofEnvironment env = .error e) :
    shared env = default := by
  rw [shared, error]

theorem ofLookup_of_gives {xs small : UInt64} (xs_given : Gives lookup xsKey defaultXs xs)
    (small_given : Gives lookup smallKey defaultSmall small) :
    ofLookup lookup = .ok (ofSizes xs small) := by
  rw [ofLookup, lookupSize_eq_ok_iff.mpr xs_given, lookupSize_eq_ok_iff.mpr small_given]

theorem exists_gives_of_ok {c : Config} (read : ofLookup lookup = .ok c) : ∃ xs small,
    Gives lookup xsKey 32 xs ∧ Gives lookup smallKey 256 small ∧ c = ofSizes xs small := by
  rw [ofLookup] at read
  cases xs_read : lookupSize lookup xsKey defaultXs with
  | error e =>
    rw [xs_read] at read
    cases read
  | ok xs =>
    cases small_read : lookupSize lookup smallKey defaultSmall with
    | error e =>
      rw [xs_read, small_read] at read
      cases read
    | ok small =>
      rw [xs_read, small_read] at read
      exact ⟨xs, small, lookupSize_eq_ok_iff.mp xs_read, lookupSize_eq_ok_iff.mp small_read,
        (Except.ok.inj read).symm⟩

/-- One text that is no size is enough, under whichever name it is. -/
theorem exists_ofLookup_error {key : String} {e : ConfigError}
    (known : key = xsKey ∨ key = smallKey) (spoils : Spoils lookup key e) :
    ∃ e', ofLookup lookup = .error e' := by
  rw [ofLookup]
  cases xs : lookupSize lookup xsKey defaultXs with
  | error e' => exact ⟨e', rfl⟩
  | ok size =>
    rcases known with rfl | rfl
    · rw [lookupSize_eq_error_iff.mpr spoils] at xs
      cases xs
    · exact ⟨e, by rw [lookupSize_eq_error_iff.mpr spoils]⟩

end Config

def sharedQueue (E : Type) (env : Environment) (requested : UInt64) (hookRuns : Nat) : AnyQueue E :=
  (((Factory.shared env).supplierFor requested).get hookRuns).1

theorem sharedQueue_eq_delivered (E : Type) (env : Environment) (requested : UInt64)
    (hookRuns : Nat) :
    sharedQueue E env requested hookRuns = delivered (Config.shared env) requested hookRuns := rfl

def limitedBound (requested : UInt64) : Nat :=
  if requested = 0 then 0 else if requested = 1 then 1 else max 8 requested.toNat

theorem boundFor_of_le {requested : UInt64} (limited : requested ≤ 10000000) (c : Config) :
    boundFor c requested = some (limitedBound requested) := by
  rw [boundFor, limitedBound, if_pos limited]
  split
  · rfl
  split <;> rfl

theorem reported_limitedBound {requested : UInt64} (limited : requested ≤ 10000000) :
    Fifo.reported (some (limitedBound requested)) = limitedBound requested := by
  have le : requested.toNat ≤ 10000000 := UInt64.le_iff_toNat_le.mp limited
  have bound : limitedBound requested ≤ 10000000 := by
    unfold limitedBound
    split
    · omega
    split <;> omega
  rw [Fifo.reported]
  omega

theorem capacity_delivered {E : Type} (c : Config) (requested : UInt64) (hookRuns : Nat)
    (calls : List (Call E)) :
    Buffer.capacity (Buffer.run (delivered c requested hookRuns) calls).2 =
      Fifo.reported (boundFor c requested) := by
  obtain ⟨R, rep, start⟩ := delivered_represented (E := E) c requested hookRuns
  rw [rep.capacity (rep.run start calls).2, Manner.capacity, mannerFor_tellsRoom, Manner.run_bound]
  rfl

/-- The configuration of an environment is that of the texts that its bytes stand for, where bytes
that are not UTF-8 stand for none. The process-wide factory has this configuration if there is one,
and else the default sizes for both, also if one text is a size. So up to the limit the capacity of
its queues, in every state, is the same in all environments. -/
theorem environment_counts_as_a_whole (env : Environment) :
    (∀ lookup : String → Option String,
      Decodes (env Config.xsKey) (lookup Config.xsKey) →
        Decodes (env Config.smallKey) (lookup Config.smallKey) →
          Config.ofEnvironment env = Config.ofLookup lookup) ∧
      (∃ lookup : String → Option String, ∀ key, Decodes (env key) (lookup key)) ∧
      (∀ (E : Type) (c : Config), Config.ofEnvironment env = .ok c →
        (Factory.shared env : Factory E).config = c) ∧
      (∀ (E : Type) (e : ConfigError), Config.ofEnvironment env = .error e →
        (Factory.shared env : Factory E).config = Config.ofSizes 32 256) ∧
      (∀ (E : Type) (xs small : UInt64), Config.Gives env.text? Config.xsKey 32 xs →
        Config.Gives env.text? Config.smallKey 256 small →
          (Factory.shared env : Factory E).config = Config.ofSizes xs small) ∧
      (∀ (E : Type) (key : String) (e : ConfigError),
        key = Config.xsKey ∨ key = Config.smallKey → Config.Spoils env.text? key e →
          (Factory.shared env : Factory E).config = Config.ofSizes 32 256) ∧
      (∀ (E : Type) (requested : UInt64) (hookRuns : Nat) (calls : List (Call E)),
        requested ≤ 10000000 →
          Buffer.capacity (Buffer.run (sharedQueue E env requested hookRuns) calls).2 =
            limitedBound requested) := by
  refine ⟨fun lookup => Config.ofEnvironment_eq_ofLookup, ⟨env.text?, env.decodes_text?⟩,
    fun E c => Config.shared_of_ok, fun E e => Config.shared_of_error, ?_, ?_, ?_⟩
  · intro E xs small xs_given small_given
    exact Config.shared_of_ok (Config.ofLookup_of_gives xs_given small_given)
  · intro E key e known spoils
    obtain ⟨e', error⟩ := Config.exists_ofLookup_error known spoils
    exact Config.shared_of_error error
  · intro E requested hookRuns calls limited
    rw [sharedQueue_eq_delivered, capacity_delivered, boundFor_of_le limited,
      reported_limitedBound limited]

end QueueSupply
