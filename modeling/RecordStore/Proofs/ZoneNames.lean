import RecordStore.Config.Basic
import RecordStore.Proofs.Outcome

/-!
The time zones of configurations. A zone is let through if it is made of the characters of names alone,
or if it is such a name with one line end behind it.
-/

namespace RecordStore

namespace TimeZone

def nameLetters : List Char :=
  "ABCDEFGHIJKLMNOPQRSTUVWXYZabcdefghijklmnopqrstuvwxyz0123456789_+-:/".toList

def IsPlain (zone : String) : Prop := ∀ letter ∈ zone.toList, letter ∈ nameLetters

instance (zone : String) : Decidable (IsPlain zone) := List.decidableBAll _ zone.toList

/-- A plain zone, or one with a line end behind its name. -/
def IsPlainLine (zone : String) : Prop :=
  IsPlain zone ∨ ∃ name : String, name ≠ "" ∧ IsPlain name ∧ zone = name ++ "\n"

theorem toNat_lt_of_isNameLetter {letter : Char} (harmless : isNameLetter letter) :
    letter.toNat < 128 := by
  have within (last : Char) (bound : letter ≤ last) : letter.toNat ≤ last.toNat := bound
  simp only [isNameLetter, Bool.or_eq_true, Bool.and_eq_true, decide_eq_true_eq] at harmless
  rcases harmless with (((((((⟨_, last⟩ | ⟨_, last⟩) | ⟨_, last⟩) | rfl) | rfl) | rfl) | rfl) | rfl)
  · exact Nat.lt_of_le_of_lt (within 'Z' last) (by decide)
  · exact Nat.lt_of_le_of_lt (within 'z' last) (by decide)
  · exact Nat.lt_of_le_of_lt (within '9' last) (by decide)
  all_goals decide

theorem isNameLetter_iff {letter : Char} : isNameLetter letter ↔ letter ∈ nameLetters := by
  constructor
  · intro harmless
    -- Only ASCII is left to look at.
    have listed : ∀ code < 128, isNameLetter (Char.ofNat code) →
        Char.ofNat code ∈ nameLetters := by decide +kernel
    have found := listed letter.toNat (toNat_lt_of_isNameLetter harmless)
    rw [Char.ofNat_toNat] at found
    exact found harmless
  · have all : nameLetters.all isNameLetter = true := by decide
    exact List.all_eq_true.mp all letter

theorem all_isNameLetter_iff {zone : String} : zone.toList.all isNameLetter ↔ IsPlain zone := by
  simp only [List.all_eq_true, isNameLetter_iff, IsPlain]

theorem dropFinalNewline_cases (text : List Char) :
    text = dropFinalNewline text ∨ text = dropFinalNewline text ++ ['\n'] := by
  by_cases ended : text.getLast? = some '\n'
  · rw [dropFinalNewline, if_pos ended]
    exact .inr (List.dropLast_append_getLast? _ ended).symm
  · rw [dropFinalNewline, if_neg ended]
    exact .inl rfl

theorem dropFinalNewline_append (name : List Char) : dropFinalNewline (name ++ ['\n']) = name := by
  rw [dropFinalNewline, if_pos List.getLast?_concat, List.dropLast_concat]

theorem IsPlain.dropFinalNewline {zone : String} (plain : IsPlain zone) :
    dropFinalNewline zone.toList = zone.toList := by
  refine if_neg fun ended => ?_
  have listed := plain '\n' (List.mem_of_getLast? ended)
  revert listed
  decide

theorem isName_iff {zone : String} : isName zone.toList ↔
    ∃ name : String, name ≠ "" ∧ IsPlain name ∧ (zone = name ∨ zone = name ++ "\n") := by
  have checks {name : String} (letters : dropFinalNewline zone.toList = name.toList) :
      isName zone.toList ↔ name ≠ "" ∧ IsPlain name := by
    rw [isName, letters, ← all_isNameLetter_iff]
    simp
  constructor
  · intro named
    set name := String.ofList (dropFinalNewline zone.toList)
    have letters : dropFinalNewline zone.toList = name.toList := String.toList_ofList.symm
    obtain ⟨some, plain⟩ := (checks letters).mp named
    have split := dropFinalNewline_cases zone.toList
    rw [letters] at split
    refine ⟨name, some, plain, split.imp String.toList_inj.mp fun ended => ?_⟩
    apply String.toList_inj.mp
    rw [ended, String.toList_append]
    rfl
  · rintro ⟨name, some, plain, rfl | rfl⟩
    · exact (checks plain.dropFinalNewline).mpr ⟨some, plain⟩
    · refine (checks ?_).mpr ⟨some, plain⟩
      rw [String.toList_append]
      exact dropFinalNewline_append name.toList

theorem isAccepted_iff {zone : String} : isAccepted zone ↔ IsPlainLine zone := by
  rw [isAccepted, Bool.or_eq_true, String.isEmpty_iff, isName_iff]
  constructor
  · rintro (rfl | ⟨name, some, plain, rfl | rfl⟩)
    · exact .inl (by decide)
    · exact .inl plain
    · exact .inr ⟨name, some, plain, rfl⟩
  · rintro (plain | ⟨name, some, plain, rfl⟩)
    · by_cases empty : zone = ""
      · exact .inl empty
      · exact .inr ⟨zone, empty, plain, .inl rfl⟩
    · exact .inr ⟨name, some, plain, .inr rfl⟩

theorem read_text (zone : String) : read (.text zone) =
    if isAccepted zone then .ok zone else .error (.invalidTimeZone zone) := rfl

theorem isAccepted_of_read {value : Value} {zone : String} (accepted : read value = .ok zone) :
    isAccepted zone := by
  obtain ⟨text, _, checked⟩ := bind_eq_ok_iff.mp accepted
  split at checked
  · rename_i harmless
    rwa [← Except.ok.inj checked]
  · cases checked

def opening? : Adapter → Option String
  | .postgres => some "SET TIME ZONE '"
  | .mysql => some "SET time_zone = '"
  | .sqlite => none

theorem statement?_of_ne {zone : String} (zoned : zone ≠ "") (adapter : Adapter) :
    statement? adapter zone = (opening? adapter).map fun opening => opening ++ zone ++ "'" := by
  cases adapter <;> simp [statement?, opening?, zoned]

end TimeZone

theorem Checked.apply_eq_ok_iff {α β : Type} {function : Checked (α → β)} {part : Checked α}
    {result : β} : function.apply part = .ok result ↔
      ∃ change value, function = .ok change ∧ part = .ok value ∧ change value = result := by
  cases function <;> cases part <;> simp [Checked.apply]

namespace Config

variable {settings : List (String × Value)} {config : Config}

theorem ofSettings_eq_ok_iff : ofSettings settings = .ok config ↔
    setting settings "adapter" .postgres Reading.adapter = .ok config.adapter ∧
    setting settings "host" "localhost" Reading.text = .ok config.host ∧
    setting settings "port" none (Reading.optional Reading.integer) = .ok config.port ∧
    setting settings "username" none (Reading.optional Reading.text) = .ok config.username ∧
    setting settings "password" none (Reading.optional Reading.text) = .ok config.password ∧
    setting settings "database" "" Reading.text = .ok config.database ∧
    setting settings "timezone" "UTC" TimeZone.read = .ok config.timeZone ∧
    setting settings "max_lifetime" 0 Reading.natural = .ok config.maxLifetime ∧
    setting settings "idle_connections" 5 Reading.natural = .ok config.idleConnections ∧
    setting settings "open_connections" 10 Reading.natural = .ok config.openConnections ∧
    setting settings "ssl" none (Reading.optional Reading.text) = .ok config.ssl ∧
    setting settings "log_mode" false Reading.truth = .ok config.logMode := by
  simp only [ofSettings, Checked.apply_eq_ok_iff]
  constructor
  · rintro ⟨_, _, ⟨_, _, ⟨_, _, ⟨_, _, ⟨_, _, ⟨_, _, ⟨_, _, ⟨_, _, ⟨_, _, ⟨_, _, ⟨_, _,
      ⟨_, _, kept, adapter, rfl⟩, host, rfl⟩, port, rfl⟩, username, rfl⟩, password, rfl⟩,
      database, rfl⟩, zone, rfl⟩, lifetime, rfl⟩, idle, rfl⟩, opened, rfl⟩, ssl, rfl⟩, logged, rfl⟩
    cases kept
    exact ⟨adapter, host, port, username, password, database, zone, lifetime, idle, opened, ssl,
      logged⟩
  · grind

theorem setting_eq_ok_iff {α : Type} {name : String} {fallback result : α}
    {read : Value → Except Fault α} : setting settings name fallback read = .ok result ↔
      settings.lookup name = none ∧ fallback = result ∨
        ∃ value, settings.lookup name = some value ∧ read value = .ok result := by
  rw [setting]
  cases settings.lookup name with
  | none => simp
  | some value =>
      show (read value).mapError _ = _ ↔ _
      cases passed : read value <;> simp [Except.mapError, passed]

theorem isPlainLine_of_accepted (accepted : ofSettings settings = .ok config) :
    TimeZone.IsPlainLine config.timeZone := by
  obtain ⟨_, _, _, _, _, _, zoned, _⟩ := ofSettings_eq_ok_iff.mp accepted
  rw [← TimeZone.isAccepted_iff]
  rcases setting_eq_ok_iff.mp zoned with ⟨_, standard⟩ | ⟨value, _, given⟩
  · rw [← standard]
    rfl
  · exact TimeZone.isAccepted_of_read given

theorem setting_cons_of_ne {α : Type} {name other : String} (apart : other ≠ name) (value : Value)
    (fallback : α) (read : Value → Except Fault α) :
    setting ((name, value) :: settings) other fallback read =
      setting settings other fallback read := by
  rw [setting, List.lookup_cons, beq_false_of_ne apart]
  rfl

theorem ofSettings_zone (accepted : ofSettings settings = .ok config) (zone : String) :
    ofSettings (("timezone", .text zone) :: settings) =
      if TimeZone.isAccepted zone then .ok { config with timeZone := zone }
      else .error [⟨"timezone", .invalidTimeZone zone⟩] := by
  obtain ⟨adapter, host, port, username, password, database, -, lifetime, idle, opened, ssl, logged⟩ :=
    ofSettings_eq_ok_iff.mp accepted
  have zoned : setting (("timezone", .text zone) :: settings) "timezone" "UTC" TimeZone.read =
      (TimeZone.read (.text zone)).mapError fun fault => [⟨"timezone", fault⟩] := rfl
  simp (disch := decide) only [ofSettings, setting_cons_of_ne, adapter, host, port, username, password,
    database, zoned, lifetime, idle, opened, ssl, logged, TimeZone.read_text]
  split
  · rfl
  · rfl

/-- Where accepted settings get another zone, they are accepted with it exactly if it is plain, up to one
line end behind its name. A statement holds nothing else of the settings than such a zone. -/
theorem zone_is_plain_up_to_a_line_end (accepted : ofSettings settings = .ok config) (zone : String) :
    (TimeZone.IsPlainLine zone →
      ofSettings (("timezone", .text zone) :: settings) = .ok { config with timeZone := zone }) ∧
    (¬ TimeZone.IsPlainLine zone → ofSettings (("timezone", .text zone) :: settings) =
      .error [⟨"timezone", .invalidTimeZone zone⟩]) ∧
    (∀ statement, config.timeZoneStatement? = some statement →
      ∃ opening, TimeZone.opening? config.adapter = some opening ∧
        statement = opening ++ config.timeZone ++ "'" ∧ TimeZone.IsPlainLine config.timeZone) := by
  have outcome := ofSettings_zone accepted zone
  refine ⟨fun plain => ?_, fun other => ?_, fun statement stated => ?_⟩
  · rw [outcome, if_pos (TimeZone.isAccepted_iff.mpr plain)]
  · rw [outcome, if_neg (mt TimeZone.isAccepted_iff.mp other)]
  · have zoned : config.timeZone ≠ "" := by
      intro empty
      rw [timeZoneStatement?, empty] at stated
      cases stated
    rw [timeZoneStatement?, TimeZone.statement?_of_ne zoned] at stated
    obtain ⟨opening, begun, written⟩ := Option.map_eq_some_iff.mp stated
    exact ⟨opening, begun, written.symm, isPlainLine_of_accepted accepted⟩

def offsetSettings : List (String × Value) :=
  [("adapter", .text "mysql_adapter"), ("timezone", .text "+07:00")]

theorem offset_is_replaced_by_a_name_only : ∃ config, ofSettings offsetSettings = .ok config ∧
    (TimeZone.IsPlainLine "Asia/Jakarta\n" ∧
      ofSettings (("timezone", .text "Asia/Jakarta\n") :: offsetSettings) =
        .ok { config with timeZone := "Asia/Jakarta\n" }) ∧
    (¬ TimeZone.IsPlainLine "UTC'; DROP TABLE people; --" ∧
      ofSettings (("timezone", .text "UTC'; DROP TABLE people; --") :: offsetSettings) =
        .error [⟨"timezone", .invalidTimeZone "UTC'; DROP TABLE people; --"⟩]) ∧
    config.timeZoneStatement? = some "SET time_zone = '+07:00'" ∧
      ∃ opening, TimeZone.opening? config.adapter = some opening ∧
        "SET time_zone = '+07:00'" = opening ++ config.timeZone ++ "'" ∧
        TimeZone.IsPlainLine config.timeZone := by
  obtain ⟨config, read, stated⟩ : ∃ config, ofSettings offsetSettings = .ok config ∧
      config.timeZoneStatement? = some "SET time_zone = '+07:00'" := ⟨_, rfl, by decide⟩
  have line : TimeZone.IsPlainLine "Asia/Jakarta\n" :=
    .inr ⟨"Asia/Jakarta", by decide, by decide, rfl⟩
  have other : ¬ TimeZone.IsPlainLine "UTC'; DROP TABLE people; --" := by
    rw [← TimeZone.isAccepted_iff]
    decide
  obtain ⟨replaces, _, holds⟩ := zone_is_plain_up_to_a_line_end read "Asia/Jakarta\n"
  obtain ⟨_, refuses, _⟩ := zone_is_plain_up_to_a_line_end read "UTC'; DROP TABLE people; --"
  exact ⟨config, read, ⟨line, replaces line⟩, ⟨other, refuses other⟩, stated, holds _ stated⟩

/-- A line end that no name has is let through. -/
theorem line_end_passes_for_a_plain_zone : ¬ ∀ zone,
    (∃ config, ofSettings [("timezone", .text zone)] = .ok config) ↔ TimeZone.IsPlain zone := by
  intro claimed
  have plain := (claimed "UTC\n").mp ⟨_, rfl⟩
  revert plain
  decide

end Config
end RecordStore
