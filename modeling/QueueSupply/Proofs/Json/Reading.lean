import QueueSupply.Proofs.Json.Layout

set_option autoImplicit false

/-!
The reader of values. What it has read so far is told by its stack: each open array or object stands
for its bracket, for what it holds and for the commas after that. So a list of tokens is read as a
value exactly when it is the list that writes this value, and a text exactly when it writes it.
-/

namespace QueueSupply.Json

def memberToken (member : List UInt16 × Json) : List Token :=
  .string member.1 :: .colon :: tokens member.2

/-- What has been read of an open array or object. -/
def Frame.opening : Frame → List Token
  | .array items => .openBracket :: items.flatMap fun v => tokens v ++ [.comma]
  | .object members => .openBrace :: members.flatMap fun member => memberToken member ++ [.comma]
  | .member members key =>
    .openBrace :: ((members.flatMap fun member => memberToken member ++ [.comma]) ++
      [.string key, .colon])

def opening : List Frame → List Token
  | [] => []
  | frame :: stack => opening stack ++ frame.opening

def Reader.HasRead (r : Reader) (ts : List Token) : Prop :=
  match r.expected with
  | .colon => ts ++ [.colon] = opening r.stack
  | .afterValue v => ts = opening r.stack ++ tokens v
  | .value | .firstItem | .firstKey | .key => ts = opening r.stack

section Sound

variable {r r' : Reader} {t : Token} {ts : List Token}

theorem itemTokens_concat (items : List Json) (v : Json) :
    itemTokens (items ++ [v]) = (items.flatMap fun w => tokens w ++ [.comma]) ++ tokens v := by
  induction items with
  | nil => rfl
  | cons w items ih =>
    cases items with
    | nil => simp [itemTokens]
    | cons x items =>
      simp only [List.cons_append, itemTokens, List.flatMap_cons] at ih ⊢
      rw [ih]
      simp

theorem memberTokens_concat (members : List (List UInt16 × Json)) (member : List UInt16 × Json) :
    memberTokens (members ++ [member]) =
      (members.flatMap fun other => memberToken other ++ [.comma]) ++ memberToken member := by
  induction members with
  | nil => rfl
  | cons other members ih =>
    cases members with
    | nil => simp [memberTokens, memberToken]
    | cons next members =>
      simp only [List.cons_append, memberTokens, List.flatMap_cons] at ih ⊢
      rw [ih]
      simp [memberToken]

theorem hasRead_begin {stack : List Frame} (begun : Reader.begin stack t = some r)
    (read : ts = opening stack) : r.HasRead (ts ++ [t]) := by
  subst read
  cases t <;> cases begun <;> simp [Reader.HasRead, opening, Frame.opening, tokens]

theorem hasRead_name {stack : List Frame} (named : Reader.name stack t = some r)
    (read : ts = opening stack) : r.HasRead (ts ++ [t]) := by
  subst read
  unfold Reader.name at named
  split at named
  · cases named
    simp [Reader.HasRead, opening, Frame.opening]
  · cases named

theorem hasRead_proceed {v : Json} {stack : List Frame}
    (proceeded : Reader.proceed v stack t = some r) (read : ts = opening stack ++ tokens v) :
    r.HasRead (ts ++ [t]) := by
  subst read
  unfold Reader.proceed at proceeded
  split at proceeded
  · cases proceeded
    simp [Reader.HasRead, opening, Frame.opening]
  · cases proceeded
    simp [Reader.HasRead, opening, Frame.opening, tokens, itemTokens_concat]
  · cases proceeded
    simp [Reader.HasRead, opening, Frame.opening, memberToken]
  · cases proceeded
    simp [Reader.HasRead, opening, Frame.opening, tokens, memberTokens_concat, memberToken]
  · cases proceeded

theorem hasRead_step (stepped : r.step t = some r') (read : r.HasRead ts) :
    r'.HasRead (ts ++ [t]) := by
  obtain ⟨expected, stack⟩ := r
  cases expected with
  | value => exact hasRead_begin stepped read
  | firstItem =>
    simp only [Reader.step] at stepped
    split at stepped
    · cases stepped
      obtain rfl := read
      simp [Reader.HasRead, opening, Frame.opening, tokens, itemTokens]
    · exact hasRead_begin stepped read
  | firstKey =>
    simp only [Reader.step] at stepped
    split at stepped
    · cases stepped
      obtain rfl := read
      simp [Reader.HasRead, opening, Frame.opening, tokens, memberTokens]
    · exact hasRead_name stepped read
  | key => exact hasRead_name stepped read
  | colon =>
    simp only [Reader.step] at stepped
    split at stepped
    · next colon =>
      cases stepped
      rw [colon]
      exact read
    · cases stepped
  | afterValue v => exact hasRead_proceed stepped read

theorem hasRead_run {before : List Token} (run : ts.foldlM Reader.step r = some r')
    (read : r.HasRead before) : r'.HasRead (before ++ ts) := by
  induction ts generalizing r before with
  | nil =>
    cases run
    rwa [List.append_nil]
  | cons t ts ih =>
    rw [List.foldlM_cons] at run
    obtain ⟨middle, stepped, rest⟩ := Option.bind_eq_some_iff.mp run
    have := ih rest (hasRead_step stepped read)
    rwa [List.append_assoc] at this

end Sound

section Complete

def Reader.Begins (r : Reader) : Prop := ∀ t, t ≠ .closeBracket → r.step t = begin r.stack t

def Reader.Names (r : Reader) : Prop := ∀ key, r.step (.string key) = name r.stack (.string key)

theorem begins_firstItem (stack : List Frame) : (Reader.mk .firstItem stack).Begins := by
  intro t other
  simp only [Reader.step]
  split
  · exact absurd rfl other
  · rfl

theorem names_firstKey (stack : List Frame) : (Reader.mk .firstKey stack).Names := by
  intro key
  simp only [Reader.step]

mutual
theorem read_tokens : (v : Json) → {r : Reader} → r.Begins → (ts : List Token) →
    (tokens v ++ ts).foldlM Reader.step r = ts.foldlM Reader.step ⟨.afterValue v, r.stack⟩
  | .null, _, begins, _ | .bool _, _, begins, _ | .number _, _, begins, _
  | .string _, _, begins, _ => by
    rw [tokens, List.singleton_append, List.foldlM_cons, begins _ (by simp)]
    rfl
  | .array [], _, begins, _ => by
    rw [tokens, List.cons_append, List.foldlM_cons, begins _ (by simp)]
    rfl
  | .array (v :: items), r, begins, ts => by
    rw [tokens, List.cons_append, List.append_assoc, List.foldlM_cons, begins _ (by simp)]
    exact read_itemTokens (v :: items) (by simp) [] (begins_firstItem _) rfl ts
  | .object [], _, begins, _ => by
    rw [tokens, List.cons_append, List.foldlM_cons, begins _ (by simp)]
    rfl
  | .object (member :: members), r, begins, ts => by
    rw [tokens, List.cons_append, List.append_assoc, List.foldlM_cons, begins _ (by simp)]
    exact read_memberTokens (member :: members) (by simp) [] (names_firstKey _) rfl ts

theorem read_itemTokens : (items : List Json) → items ≠ [] → (done : List Json) → {r : Reader} →
    {stack : List Frame} → r.Begins → r.stack = .array done :: stack → (ts : List Token) →
      (itemTokens items ++ .closeBracket :: ts).foldlM Reader.step r =
        ts.foldlM Reader.step ⟨.afterValue (.array (done ++ items)), stack⟩
  | [], some_item, _, _, _, _, _, _ => absurd rfl some_item
  | [v], _, _, r, _, begins, innermost, ts => by
    rw [itemTokens, read_tokens v begins, innermost]
    rfl
  | v :: w :: items, _, done, r, stack, begins, innermost, ts => by
    -- After the comma the reader is in the same array, with one more item done.
    have later := read_itemTokens (w :: items) (by simp) (done ++ [v])
      (r := ⟨.value, .array (done ++ [v]) :: stack⟩) (fun _ _ => rfl) rfl ts
    rw [itemTokens, List.append_assoc, read_tokens v begins, innermost]
    rw [List.append_assoc] at later
    exact later

theorem read_memberTokens : (members : List (List UInt16 × Json)) → members ≠ [] →
    (done : List (List UInt16 × Json)) → {r : Reader} → {stack : List Frame} → r.Names →
      r.stack = .object done :: stack → (ts : List Token) →
        (memberTokens members ++ .closeBrace :: ts).foldlM Reader.step r =
          ts.foldlM Reader.step ⟨.afterValue (.object (done ++ members)), stack⟩
  | [], some_member, _, _, _, _, _, _ => absurd rfl some_member
  | [(key, v)], _, done, r, stack, names, innermost, ts => by
    have value := read_tokens v (r := ⟨.value, .member done key :: stack⟩) (fun _ _ => rfl)
      (.closeBrace :: ts)
    rw [memberTokens, List.cons_append, List.foldlM_cons, names, innermost]
    exact value
  | (key, v) :: member :: members, _, done, r, stack, names, innermost, ts => by
    have later := read_memberTokens (member :: members) (by simp) (done ++ [(key, v)])
      (r := ⟨.key, .object (done ++ [(key, v)]) :: stack⟩) (fun _ => rfl) rfl ts
    have value := read_tokens v (r := ⟨.value, .member done key :: stack⟩) (fun _ _ => rfl)
      (.comma :: (memberTokens (member :: members) ++ .closeBrace :: ts))
    rw [memberTokens, List.cons_append, List.foldlM_cons, names, innermost, List.cons_append,
      List.append_assoc]
    rw [List.append_assoc] at later
    exact value.trans later
end

end Complete

/-- A list of tokens is read as a value exactly when it is the list of the value's tokens. -/
theorem ofTokens?_eq_some_iff {ts : List Token} {v : Json} :
    ofTokens? ts = some v ↔ ts = v.tokens := by
  constructor
  · intro read
    unfold ofTokens? at read
    split at read
    · next w run =>
      obtain rfl := Option.some.inj read
      have nothing_read : (Reader.mk .value []).HasRead [] := rfl
      exact hasRead_run run nothing_read
    · cases read
  · rintro rfl
    have run := read_tokens v (r := ⟨.value, []⟩) (fun _ _ => rfl) []
    rw [List.append_nil] at run
    rw [ofTokens?, run]
    rfl

/-- A text is read as a value exactly when it writes it. -/
theorem parse?_eq_some_iff {text : List Char} {v : Json} :
    parse? text = some v ↔ Written v text := by
  rw [parse?, Option.bind_eq_some_iff]
  constructor
  · rintro ⟨ts, scanned, read⟩
    rw [ofTokens?_eq_some_iff] at read
    rw [read] at scanned
    exact scan?_sound scanned
  · intro written
    exact ⟨v.tokens, written.scan?, ofTokens?_eq_some_iff.mpr rfl⟩

section Trailing

variable {v w : Json} {text extra : List Char}

theorem getLast?_tokens (other : ∀ n, v ≠ .number n) {t : Token} (last : t ∈ v.tokens.getLast?) :
    t.isNumber = false := by
  cases v with
  | number n => exact absurd rfl (other n)
  | array items =>
    rw [tokens, ← List.cons_append, List.getLast?_concat] at last
    obtain rfl := Option.some.inj last
    rfl
  | object members =>
    rw [tokens, ← List.cons_append, List.getLast?_concat] at last
    obtain rfl := Option.some.inj last
    rfl
  | null | bool | string =>
    obtain rfl := Option.some.inj last
    rfl

/-- After a value other than a number only blanks may follow. -/
theorem blank_of_parse?_append (written : Written v text) (other : ∀ n, v ≠ .number n)
    (read : parse? (text ++ extra) = some w) : ∀ c ∈ extra, isSpace c = true := by
  have scanned := (parse?_eq_some_iff.mp read).scan?
  rw [scan?_append written (isChain_tokens v)] at scanned
  · obtain ⟨ts, extra_scanned, more⟩ := Option.map_eq_some_iff.mp scanned
    have run := read_tokens w (r := ⟨.value, []⟩) (fun _ _ => rfl) []
    rw [List.append_nil, ← more, read_tokens v (fun _ _ => rfl)] at run
    -- The value is complete and nothing is open, so no token can be read any more.
    cases ts with
    | nil =>
      cases scan?_sound extra_scanned with
      | nil blank => exact blank
    | cons t ts => cases run
  · rintro ⟨t, last, number⟩
    rw [getLast?_tokens other last] at number
    cases number

/-- What follows a number can at most make it another number. -/
theorem number_of_parse?_append {n : Number} (written : Written (.number n) text)
    (read : parse? (text ++ extra) = some w) : ∃ m, w = .number m := by
  have scanned := (parse?_eq_some_iff.mp read).scan?
  cases written with
  | cons blank spelt others =>
    cases spelt with
    | number parts =>
      obtain ⟨c, digits, literal, begins⟩ := parts.chars.1
      have solid := isSpace_of_isNumberChar (parts.chars.2 c (by simp [literal]))
      rw [List.append_assoc, scan?_blanks blank, literal, List.append_assoc, List.cons_append,
        scan?_step (List.dropWhile_cons_of_neg (by simp [solid])),
        scanToken?_of_number begins] at scanned
      obtain ⟨⟨t, rest⟩, first, tokens_eq⟩ := Option.bind_eq_some_iff.mp scanned
      obtain ⟨⟨m, after⟩, -, eq⟩ := Option.map_eq_some_iff.mp first
      obtain ⟨ts, -, cons_eq⟩ := Option.map_eq_some_iff.mp tokens_eq
      obtain ⟨rfl, rfl⟩ := Prod.mk.inj eq
      cases w with
      | number m' => exact ⟨m', rfl⟩
      | null | bool | string | array | object => cases cons_eq

end Trailing

end QueueSupply.Json
