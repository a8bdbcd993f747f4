import RecordStore.Proofs.Bindings
import RecordStore.Proofs.TokenText

/-!
The names and values of the places of a text. A place is named after how many places of its base are on
its left, so that no name stands twice, whichever bases take turns and whatever they end in.
-/

namespace RecordStore

theorem append_cons_inj_of_last {α : Type} {before before' after after' : List α} {mark : α}
    (notMem : mark ∉ after) (notMem' : mark ∉ after')
    (same : before ++ mark :: after = before' ++ mark :: after') :
    before = before' ∧ after = after' := by
  rcases List.append_eq_append_iff.mp same with ⟨between, longer, rest⟩ | ⟨between, longer, rest⟩
  · cases between with
    | nil => exact ⟨by simpa using longer.symm, (List.cons.inj rest).2⟩
    | cons first between =>
        obtain ⟨_, rfl⟩ := List.cons.inj rest
        exact absurd (by simp) notMem
  · cases between with
    | nil => exact ⟨by simpa using longer, (List.cons.inj rest).2.symm⟩
    | cons first between =>
        obtain ⟨_, rfl⟩ := List.cons.inj rest
        exact absurd (by simp) notMem'

namespace Token

theorem toList_placeName (base : String) (earlier : Nat) :
    (placeName base earlier).toList = base.toList ++ '_' :: Nat.toDigits 10 (earlier + 1) := by
  simp [placeName]

theorem placeName_inj {base other : String} {earlier earlier' : Nat}
    (same : placeName base earlier = placeName other earlier') :
    base = other ∧ earlier = earlier' := by
  have letters := congrArg String.toList same
  rw [toList_placeName, toList_placeName] at letters
  obtain ⟨bases, digits⟩ := append_cons_inj_of_last Nat.underscore_not_in_toDigits
    Nat.underscore_not_in_toDigits letters
  have numbers := congrArg (Nat.ofDigitChars 10 · 0) digits
  simp only [Nat.ofDigitChars_ten_toDigits] at numbers
  exact ⟨String.toList_inj.mp bases, Nat.succ.inj numbers⟩

end Token

namespace SqlText

variable {dialect : Dialect}

theorem parameters_behind_place (before : List Token) (base : String) (type : BindType)
    (value : Value) (fixed : Bool) (tokens : List Token) :
    (behind dialect before (.place base type value fixed :: tokens)).parameters =
      (Token.placeName base (Token.countBase base before), value) ::
        (behind dialect (before ++ [.place base type value fixed]) tokens).parameters := by
  rw [behind_place]

theorem name_of_mem_behind {before tokens : List Token} {name : String}
    (found : name ∈ (behind dialect before tokens).parameters.map Prod.fst) :
    ∃ base earlier, name = Token.placeName base earlier ∧ Token.countBase base before ≤ earlier := by
  induction tokens generalizing before with
  | nil => cases found
  | cons token tokens ih =>
      cases token with
      | word text =>
          rw [behind_word] at found
          exact ih found
      | place base type value fixed =>
          rw [parameters_behind_place, List.map_cons, List.mem_cons] at found
          rcases found with rfl | later
          · exact ⟨base, _, rfl, Nat.le_refl _⟩
          · obtain ⟨other, earlier, named, counted⟩ := ih later
            rw [Token.countBase_append] at counted
            exact ⟨other, earlier, named, Nat.le_trans (Nat.le_add_right _ _) counted⟩

theorem nodup_names_behind (before tokens : List Token) :
    ((behind dialect before tokens).parameters.map Prod.fst).Nodup := by
  induction tokens generalizing before with
  | nil => exact List.nodup_nil
  | cons token tokens ih =>
      cases token with
      | word text =>
          rw [behind_word]
          exact ih before
      | place base type value fixed =>
          rw [parameters_behind_place, List.map_cons, List.nodup_cons]
          -- Behind this place, every name of its base counts at least one place more.
          refine ⟨fun repeated => ?_, ih _⟩
          obtain ⟨other, earlier, named, counted⟩ := name_of_mem_behind repeated
          obtain ⟨rfl, rfl⟩ := Token.placeName_inj named
          have here : Token.countBase base [.place base type value fixed] = 1 := by
            simp [Token.countBase, Token.base?]
          rw [Token.countBase_append, here] at counted
          omega

theorem nodup_names_ofTokens (tokens : List Token) :
    ((ofTokens dialect tokens).parameters.map Prod.fst).Nodup := by
  rw [ofTokens_eq_behind]
  exact nodup_names_behind [] tokens

theorem values_behind (before tokens : List Token) :
    (behind dialect before tokens).parameters.map Prod.snd =
      (Token.places tokens).map Prod.snd := by
  induction tokens generalizing before with
  | nil => rfl
  | cons token tokens ih =>
      cases token with
      | word text =>
          rw [behind_word]
          exact ih before
      | place base type value fixed =>
          rw [parameters_behind_place, List.map_cons, ih]
          rfl

end SqlText

end RecordStore
