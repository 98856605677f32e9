import Hawse.Systemd

namespace Hawse.Proof.Systemd
open Hawse.Systemd Lib

/-! ## Words -/

def doubled (arg : List Char) : List Char := replace '%' ['%', '%'] arg

theorem doubled_cons (c : Char) (arg : List Char) :
    doubled (c :: arg) = (if c = '%' then ['%', '%'] else [c]) ++ doubled arg := rfl

theorem specifiers_doubled (arg : List Char) : specifiers (doubled arg) = some arg := by
  induction arg with
  | nil => rfl
  | cons c arg ih =>
      rw [doubled_cons]
      by_cases percent : c = '%'
      · subst percent
        simp [specifiers, ih]
      · rw [if_neg percent, List.singleton_append, specifiers.eq_def]
        simp [percent, ih]

theorem escaped_eq (text : List Char) :
    replace '"' ['\\', '"'] (replace '\\' ['\\', '\\'] text) = text.flatMap Words.escape := by
  unfold replace
  rw [List.flatMap_assoc]
  congr 1
  funext c
  by_cases slash : c = '\\'
  · subst slash
    rfl
  · by_cases quote : c = '"'
    · subst quote
      rfl
    · simp [Words.escape, slash, quote]

theorem executable_doubled {exe : List Char} (rooted : exe.head? = some '/') :
    executable (':' :: doubled exe) = (true, doubled exe) := by
  cases exe with
  | nil => cases rooted
  | cons c more =>
      cases rooted
      rfl

section Split
variable {separates : Char → Bool}

/-- What systemd splits at is whitespace, a space at least. -/
structure Separators (separates : Char → Bool) : Prop where
  space : separates ' '
  whitespace : ∀ c, separates c → isWhitespace c

variable (separators : Separators separates)
include separators

theorem not_separates {c : Char} (other : isWhitespace c = false) : separates c = false := by
  by_contra separator
  have white := separators.whitespace c (Bool.eq_true_of_not_eq_false separator)
  rw [other] at white
  cases white

theorem plain_of_bare {text : List Char}
    (bare : (text.any fun c => isWhitespace c || c = '"' || c = '\'' || c = '\\') = false) :
    Words.Plain separates text := by
  intro c member
  have clear := List.any_eq_false.mp bare c member
  simp only [Bool.or_eq_true, decide_eq_true_eq, not_or, Bool.not_eq_true] at clear
  exact ⟨not_separates separators clear.1.1.1, clear.1.1.2, clear.1.2, clear.2⟩

theorem split_word (arg word rest : List Char) :
    Words.split separates unescape none (some word) (Systemd.word arg ++ rest) =
      Words.split separates unescape none (some (word ++ doubled arg)) rest := by
  by_cases bare : (doubled arg).any fun c => isWhitespace c || c = '"' || c = '\'' || c = '\\'
  · have quoted : Systemd.word arg = '"' :: ((doubled arg).flatMap Words.escape ++ ['"']) := by
      rw [← escaped_eq]
      exact if_pos bare
    have inside := not_separates separators (c := '"') (by decide)
    rw [quoted, List.cons_append, Words.split_quote inside, List.append_assoc, List.singleton_append]
    have slash : unescape '\\' = some '\\' := rfl
    have double : unescape '"' = some '"' := rfl
    exact Words.split_escaped slash double _ _ _
  · have plain : Systemd.word arg = doubled arg := if_neg bare
    rw [plain]
    exact Words.split_plain (plain_of_bare separators (Bool.eq_false_of_not_eq_true bare)) _ _

theorem split_text {text : List Char}
    (bare : (text.any fun c => isWhitespace c || c = '"' || c = '\'' || c = '\\') = false) (nonempty : text ≠ [])
    (rest : List Char) :
    Words.split separates unescape none none (text ++ rest) = Words.split separates unescape none (some text) rest := by
  have plain := plain_of_bare separators bare
  obtain ⟨c, more, rfl⟩ := List.exists_cons_of_ne_nil nonempty
  obtain ⟨inside, _, _, slash⟩ := plain c List.mem_cons_self
  rw [List.cons_append, Words.split_opens inside slash, ← List.cons_append, Words.split_plain plain, List.nil_append]

theorem split_space (word rest : List Char) :
    Words.split separates unescape none (some word) (' ' :: rest) =
      (Words.split separates unescape none none rest).map (word :: ·) :=
  Words.split_separator separators.space (by decide) (some word) rest

theorem split_rooted {arg : List Char} (rooted : arg.head? = some '/') (rest : List Char) :
    Words.split separates unescape none none (Systemd.word arg ++ rest) =
      Words.split separates unescape none (some (doubled arg)) rest := by
  have opens : Words.split separates unescape none none (Systemd.word arg ++ rest) =
      Words.split separates unescape none (some []) (Systemd.word arg ++ rest) := by
    obtain ⟨more, rfl⟩ : ∃ more, arg = '/' :: more := by
      cases arg with
      | nil => cases rooted
      | cons c more => exact ⟨more, by rw [Option.some.inj rooted]⟩
    unfold Systemd.word
    simp only
    split
    · exact Words.split_opens (not_separates separators (by decide)) (by decide) _
    · exact Words.split_opens (not_separates separators (by decide)) (by decide) _
  rw [opens, split_word separators, List.nil_append]

/-! ## The two settings -/

theorem split_execStart (role : Role) (exe : List Char) {config : List Char} (configRooted : config.head? = some '/') :
    Words.split separates unescape none none ([':'] ++ (Systemd.word exe ++ ' ' :: (role.name ++
      ' ' :: ("--config".toList ++ ' ' :: (Systemd.word config ++
        ' ' :: ("--log".toList ++ ' ' :: ("pretty".toList ++ []))))))) =
      some [':' :: doubled exe, role.name, "--config".toList, doubled config, "--log".toList, "pretty".toList] := by
  have name : (role.name.any fun c => isWhitespace c || c = '"' || c = '\'' || c = '\\') = false ∧ role.name ≠ [] := by
    cases role <;> decide
  have ended : Words.split separates unescape none (some "pretty".toList) [] = some ["pretty".toList] := rfl
  rw [split_text separators (by decide) (by decide), split_word separators, split_space separators,
    split_text separators name.1 name.2, split_space separators,
    split_text separators (by decide) (by decide), split_space separators,
    split_rooted separators configRooted, split_space separators,
    split_text separators (by decide) (by decide), split_space separators,
    split_text separators (by decide) (by decide), ended]
  rfl

theorem command_execStart (expand : List Char → List (List Char)) (role : Role) {exe config : List Char}
    (rooted : exe.head? = some '/') (configRooted : config.head? = some '/') :
    command separates expand (':' :: (Systemd.word exe ++ ' ' :: (role.name ++ ' ' :: ("--config".toList ++
      ' ' :: (Systemd.word config ++ ' ' :: ("--log".toList ++ ' ' :: ("pretty".toList ++ []))))))) =
      some [exe, role.name, "--config".toList, config, "--log".toList, "pretty".toList] := by
  have name : specifiers role.name = some role.name := by cases role <;> decide
  have fixed : specifiers "--config".toList = some "--config".toList ∧ specifiers "--log".toList = some "--log".toList ∧
      specifiers "pretty".toList = some "pretty".toList := by decide
  have words := split_execStart separators role exe configRooted
  rw [List.singleton_append] at words
  simp only [command, words, executable_doubled rooted, specifiers_doubled, List.mapM_cons, List.mapM_nil, name, fixed.1,
    fixed.2.1, fixed.2.2, bind, Option.bind_some, pure, if_true]

theorem paths_word {keyDir : List Char} (rooted : keyDir.head? = some '/') :
    paths separates (Systemd.word keyDir) = some [keyDir] := by
  have words := split_rooted separators rooted []
  rw [List.append_nil] at words
  have ended : Words.split separates unescape none (some (doubled keyDir)) [] = some [doubled keyDir] := rfl
  simp [paths, words, ended, specifiers_doubled]

end Split

/-! ## On a line of their own -/

theorem mem_replace {c d : Char} {put text : List Char} (member : d ∈ replace c put text) : d ∈ put ∨ d ∈ text := by
  obtain ⟨e, inside, made⟩ := List.mem_flatMap.mp member
  split at made
  · exact .inl made
  · exact .inr (List.mem_singleton.mp made ▸ inside)

theorem newline_not_mem_word {arg : List Char} (clean : '\n' ∉ arg) : '\n' ∉ Systemd.word arg := by
  have inside : '\n' ∉ doubled arg := fun member =>
    (mem_replace member).elim (by decide) clean
  unfold Systemd.word
  simp only
  split
  · have escaped : '\n' ∉ replace '"' ['\\', '"'] (replace '\\' ['\\', '\\'] (doubled arg)) := fun member =>
      (mem_replace member).elim (by decide) fun member => (mem_replace member).elim (by decide) inside
    simp only [List.mem_cons, List.mem_append, List.not_mem_nil, or_false, not_or]
    exact ⟨by decide, escaped, by decide⟩
  · exact inside

theorem word_getLast (arg : List Char) : (Systemd.word arg).getLast? ≠ some '\\' := by
  unfold Systemd.word
  simp only
  split
  · rw [← List.cons_append, List.getLast?_concat]
    decide
  · next bare =>
      intro last
      have member := List.mem_of_getLast? last
      exact bare (List.any_eq_true.mpr ⟨'\\', member, by decide⟩)

theorem newline_not_mem {text : List Char} (clean : ∀ c ∈ text, isControl c = false) : '\n' ∉ text :=
  fun member => absurd (clean _ member) (by decide)

theorem settings_flatMap {α : Type} (name : List Char) (lines : List α) (write : α → List (List Char)) :
    settings name (lines.flatMap write) = lines.flatMap fun shipped => settings name (write shipped) := by
  simp [settings, List.filter_flatMap, List.map_flatMap]

theorem settings_other {name shipped : List Char} (other : name.isPrefixOf shipped = false) (lines : List (List Char)) :
    settings name (shipped :: lines) = settings name lines := by
  simp only [settings, List.filter_cons, other, Bool.false_eq_true, if_false]

theorem flatMap_once {α β : Type} {p : α → Bool} {lines : List α} (once : lines.countP p = 1) (value : β) :
    (lines.flatMap fun shipped => if p shipped then [value] else []) = [value] := by
  have counted : ∀ lines : List α, (lines.flatMap fun shipped => if p shipped then [value] else []) =
      List.replicate (lines.countP p) value := by
    intro lines
    induction lines with
    | nil => rfl
    | cons shipped lines ih =>
        rw [List.flatMap_cons, ih]
        by_cases taken : p shipped
        · simp [taken, List.replicate_succ]
        · simp [taken]
  rw [counted, once]
  rfl

/-- The lines of the contrib units that `unit` writes anew. The kernel reads both units once here. -/
theorem contrib_lines (role : Role) :
    (contrib role).countP ("ExecStart=".toList.isPrefixOf ·) = 1 ∧
    (contrib role).countP (· = "DynamicUser=yes".toList) = 1 ∧
    ∀ shipped ∈ contrib role, "ReadWritePaths=".toList.isPrefixOf shipped = false := by
  have both : ∀ role ∈ [Role.server, .client], (contrib role).countP ("ExecStart=".toList.isPrefixOf ·) = 1 ∧
      (contrib role).countP (· = "DynamicUser=yes".toList) = 1 ∧
      ∀ shipped ∈ contrib role, "ReadWritePaths=".toList.isPrefixOf shipped = false := by decide +kernel
  exact both role (by cases role <;> simp)

section Unit
variable (role : Role) (exe config : List Char) (account : Option Account)

def execValue : List Char :=
  ':' :: (Systemd.word exe ++ ' ' :: (role.name ++ ' ' :: ("--config".toList ++
    ' ' :: (Systemd.word config ++ ' ' :: ("--log".toList ++ ' ' :: ("pretty".toList ++ []))))))

theorem execStart_eq : execStart role exe config = "ExecStart=".toList ++ execValue role exe config := by
  unfold execStart execValue
  have option (rest : List Char) : " --config ".toList ++ rest = ' ' :: ("--config".toList ++ ' ' :: rest) := rfl
  have tail : " --log pretty".toList = ' ' :: ("--log".toList ++ ' ' :: ("pretty".toList ++ [])) := rfl
  rw [List.append_assoc role.name, option, tail]
  rfl

theorem line_execStart (shipped : List Char) :
    settings "ExecStart=".toList (line role exe config account shipped) =
      if "ExecStart=".toList.isPrefixOf shipped then [execValue role exe config] else [] := by
  unfold line
  split
  · rw [execStart_eq]
    rfl
  · next other =>
      have unshipped := settings_other (Bool.eq_false_of_not_eq_true other) []
      cases account with
      | none => exact unshipped
      | some account =>
          simp only
          split
          · rfl
          · split
            · rfl
            · exact unshipped

theorem unit_execStart : settings "ExecStart=".toList (unit role exe config account) = [execValue role exe config] := by
  have once := (contrib_lines role).1
  have written := settings_flatMap "ExecStart=".toList (contrib role) (line role exe config account)
  simp only [line_execStart] at written
  rw [flatMap_once once] at written
  have header : ∀ rest, "ExecStart=".toList.isPrefixOf ('#' :: rest) = false := fun _ => rfl
  exact (settings_other (header _) _).trans written

theorem line_readWritePaths {shipped : List Char} (other : "ReadWritePaths=".toList.isPrefixOf shipped = false)
    (account : Account) :
    settings "ReadWritePaths=".toList (line role exe config (some account) shipped) =
      if shipped = "DynamicUser=yes".toList then [Systemd.word account.keyDir] else [] := by
  unfold line
  split
  · next started =>
      have apart : shipped ≠ "DynamicUser=yes".toList := by
        rintro rfl
        exact absurd started (by decide)
      rw [if_neg apart]
      rfl
  · simp only
    split
    · rfl
    · split
      · rfl
      · exact settings_other other []

theorem unit_readWritePaths (account : Account) :
    settings "ReadWritePaths=".toList (unit role exe config (some account)) = [Systemd.word account.keyDir] := by
  obtain ⟨_, once, others⟩ := contrib_lines role
  have written := settings_flatMap "ReadWritePaths=".toList (contrib role) (line role exe config (some account))
  have lines : (contrib role).flatMap (fun shipped =>
      settings "ReadWritePaths=".toList (line role exe config (some account) shipped)) =
        (contrib role).flatMap fun shipped =>
          if decide (shipped = "DynamicUser=yes".toList) then [Systemd.word account.keyDir] else [] := by
    refine List.flatMap_congr fun shipped member => ?_
    simp only [line_readWritePaths role exe config (others shipped member) account, decide_eq_true_eq]
  rw [lines, flatMap_once once] at written
  have header : ∀ rest, "ReadWritePaths=".toList.isPrefixOf ('#' :: rest) = false := fun _ => rfl
  exact (settings_other (header _) _).trans written

end Unit

theorem oneLine_execValue (role : Role) {exe config : List Char} (exeClean : '\n' ∉ exe) (configClean : '\n' ∉ config) :
    OneLine (execValue role exe config) := by
  have name : '\n' ∉ role.name := by cases role <;> decide
  have fixed : '\n' ∉ "--config".toList ∧ '\n' ∉ "--log".toList ∧ '\n' ∉ "pretty".toList := by decide
  have space : '\n' ≠ ' ' ∧ '\n' ≠ ':' := by decide
  refine ⟨?_, ?_⟩
  · simp only [execValue, List.mem_cons, List.mem_append, List.not_mem_nil, or_false, not_or]
    exact ⟨space.2, newline_not_mem_word exeClean, space.1, name, space.1, fixed.1, space.1,
      newline_not_mem_word configClean, space.1, fixed.2.1, space.1, fixed.2.2⟩
  · have last : ∃ before, execValue role exe config = before ++ ['y'] :=
      ⟨':' :: (Systemd.word exe ++ ' ' :: (role.name ++ ' ' :: ("--config".toList ++
        ' ' :: (Systemd.word config ++ " --log prett".toList)))), by simp [execValue]⟩
    obtain ⟨before, ends⟩ := last
    rw [ends, List.getLast?_concat]
    decide

theorem unit_undone {separates : Char → Bool} (separators : Separators separates)
    (expand : List Char → List (List Char)) (role : Role) (exe config : List Char) (account : Option Account)
    (exeRooted : exe.head? = some '/') (executes : canExecute exe) (configRooted : config.head? = some '/')
    (configClean : ∀ c ∈ config, isControl c = false) :
    (∃ value, settings "ExecStart=".toList (unit role exe config account) = [value] ∧ OneLine value ∧
      command separates expand value =
        some [exe, role.name, "--config".toList, config, "--log".toList, "pretty".toList]) ∧
    ∀ keeper, account = some keeper → keeper.keyDir.head? = some '/' → (∀ c ∈ keeper.keyDir, isControl c = false) →
      ∃ value, settings "ReadWritePaths=".toList (unit role exe config account) = [value] ∧ OneLine value ∧
        paths separates value = some [keeper.keyDir] := by
  refine ⟨⟨execValue role exe config, unit_execStart role exe config account, ?_, ?_⟩, ?_⟩
  · have exeClean : ∀ c ∈ exe, isControl c = false := by
      have clean := (Bool.and_eq_true_iff.mp executes).2
      simpa using clean
    exact oneLine_execValue role (newline_not_mem exeClean) (newline_not_mem configClean)
  · exact command_execStart separators expand role exeRooted configRooted
  · rintro keeper rfl rooted clean
    exact ⟨Systemd.word keeper.keyDir, unit_readWritePaths role exe config keeper,
      ⟨newline_not_mem_word (newline_not_mem clean), word_getLast _⟩, paths_word separators rooted⟩

theorem unit_undone_quoted :
    (settings "ExecStart=".toList (unit .server "/opt/my apps/hawse".toList "/etc/50% \"a\"$x.toml".toList none)).map
      (command isWhitespace fun arg => [arg]) =
    [some ["/opt/my apps/hawse".toList, "server".toList, "--config".toList, "/etc/50% \"a\"$x.toml".toList,
      "--log".toList, "pretty".toList]] := by
  have clean : "/etc/50% \"a\"$x.toml".toList.all fun c => !isControl c := by decide
  have undone := unit_undone ⟨by decide, fun _ => id⟩ (fun arg => [arg]) .server "/opt/my apps/hawse".toList
    "/etc/50% \"a\"$x.toml".toList none (by decide) (by decide) (by decide)
    fun c member => by simpa using List.all_eq_true.mp clean c member
  obtain ⟨value, written, _, words⟩ := undone.1
  rw [written, List.map_singleton, words]
  rfl

end Hawse.Proof.Systemd
