import Hawse.Config
import Hawse.Proof.Text

namespace Hawse.Proof.Address
open Text

theorem parsePort_display {port : UInt16} (positive : port ≠ 0) : parsePort (displayU16 port) = some port := by
  simp [parsePort, parseU16_displayU16, positive]

theorem parsePort_positive {text : List Char} {port : UInt16} (parsed : parsePort text = some port) : port ≠ 0 := by
  simpa using (Option.filter_eq_some_iff.mp parsed).2

/-- Not the text of one of the ports 1 to 65535. -/
def NoPort (text : List Char) : Prop := ∀ port, parseU16 text = some port → port = 0

theorem parsePort_eq_none {text : List Char} : parsePort text = none ↔ NoPort text := by
  simp [parsePort, NoPort]

/-- What a text can look like. -/
inductive Shape : List Char → Prop
  | empty : Shape []
  | unclosed (rest : List Char) : ']' ∉ rest → Shape ('[' :: rest)
  | emptyBrackets (tail : List Char) : Shape ('[' :: ']' :: tail)
  | bracketed (host : List Char) : host ≠ [] → ']' ∉ host → Shape ('[' :: (host ++ [']']))
  | bracketedPort (host port : List Char) : host ≠ [] → ']' ∉ host → Shape ('[' :: (host ++ ']' :: ':' :: port))
  | afterBracket (host : List Char) (c : Char) (tail : List Char) : host ≠ [] → ']' ∉ host → c ≠ ':' →
      Shape ('[' :: (host ++ ']' :: c :: tail))
  | colons (text : List Char) : text.head? ≠ some '[' → 2 ≤ text.count ':' → Shape text
  | host (text : List Char) : text ≠ [] → text.head? ≠ some '[' → ':' ∉ text → Shape text
  | emptyHost (port : List Char) : ':' ∉ port → Shape (':' :: port)
  | hostPort (host port : List Char) : host ≠ [] → host.head? ≠ some '[' → ':' ∉ host → ':' ∉ port →
      Shape (host ++ ':' :: port)

theorem shape_bracketed (rest : List Char) : Shape ('[' :: rest) := by
  cases split : splitOnce ']' rest with
  | none => exact .unclosed rest (splitOnce_eq_none.mp split)
  | some parts =>
      obtain ⟨host, tail⟩ := parts
      obtain ⟨free, rfl⟩ := splitOnce_eq_some.mp split
      by_cases named : host = []
      · subst named
        exact .emptyBrackets tail
      · cases tail with
        | nil => exact .bracketed host named free
        | cons c port =>
            by_cases colon : c = ':'
            · subst colon
              exact .bracketedPort host port named free
            · exact .afterBracket host c port named free colon

theorem shape_plain {text : List Char} (nonempty : text ≠ []) (plain : text.head? ≠ some '[') : Shape text := by
  by_cases many : 2 ≤ text.count ':'
  · exact .colons text plain many
  · cases split : splitOnce ':' text with
    | none => exact .host text nonempty plain (splitOnce_eq_none.mp split)
    | some parts =>
        obtain ⟨host, port⟩ := parts
        obtain ⟨free, rfl⟩ := splitOnce_eq_some.mp split
        have last : ':' ∉ port := by
          rw [List.count_append, List.count_cons_self] at many
          exact List.count_eq_zero.mp (by omega)
        cases host with
        | nil => exact .emptyHost port last
        | cons c host => exact .hostPort (c :: host) port (List.cons_ne_nil c host) plain free last

theorem shape (text : List Char) : Shape text := by
  cases text with
  | nil => exact .empty
  | cons c rest =>
      by_cases bracket : c = '['
      · subst bracket
        exact shape_bracketed rest
      · exact shape_plain (List.cons_ne_nil c rest) fun head => bracket (Option.some.inj head)

/-! ## How each is split -/

theorem split_unclosed {rest : List Char} (free : ']' ∉ rest) :
    splitHostPort (String.ofList ('[' :: rest)) = none := by
  simp [splitHostPort, splitOnce_eq_none.mpr free]

theorem split_emptyBrackets (tail : List Char) : splitHostPort (String.ofList ('[' :: ']' :: tail)) = none := by
  simp [splitHostPort, splitOnce]

theorem split_bracketed {host : List Char} (named : host ≠ []) (free : ']' ∉ host) :
    splitHostPort (String.ofList ('[' :: (host ++ [']']))) = some (String.ofList host, none) := by
  have split := splitOnce_append [] free
  obtain ⟨c, rest, rfl⟩ := List.exists_cons_of_ne_nil named
  simp only [splitHostPort, String.toList_ofList, split]

theorem split_bracketedPort {host : List Char} (port : List Char) (named : host ≠ []) (free : ']' ∉ host) :
    splitHostPort (String.ofList ('[' :: (host ++ ']' :: ':' :: port))) =
      (parsePort port).map fun port => (String.ofList host, some port) := by
  have split := splitOnce_append (':' :: port) free
  obtain ⟨c, rest, rfl⟩ := List.exists_cons_of_ne_nil named
  simp only [splitHostPort, String.toList_ofList, split]

theorem split_afterBracket {host : List Char} {c : Char} (tail : List Char) (named : host ≠ []) (free : ']' ∉ host)
    (other : c ≠ ':') : splitHostPort (String.ofList ('[' :: (host ++ ']' :: c :: tail))) = none := by
  have split := splitOnce_append (c :: tail) free
  obtain ⟨d, rest, rfl⟩ := List.exists_cons_of_ne_nil named
  simp only [splitHostPort, String.toList_ofList, split]

/-- The split of a text that opens no bracket. -/
def splitPlain (text : List Char) : Option (String × Option UInt16) :=
  if 1 < text.count ':' then some (String.ofList text, none)
  else
    match splitOnce ':' text with
    | none => some (String.ofList text, none)
    | some ([], _) => none
    | some (host, port) => (parsePort port).map fun port => (String.ofList host, some port)

theorem split_plain {text : List Char} (nonempty : text ≠ []) (plain : text.head? ≠ some '[') :
    splitHostPort (String.ofList text) = splitPlain text := by
  obtain ⟨c, rest, rfl⟩ := List.exists_cons_of_ne_nil nonempty
  simp only [splitHostPort, String.toList_ofList, splitPlain]
  split
  · next same => simp at same
  · next same => exact absurd (congrArg List.head? same) plain
  · rfl

theorem splitPlain_colons {text : List Char} (many : 2 ≤ text.count ':') :
    splitPlain text = some (String.ofList text, none) := if_pos many

theorem splitPlain_host {text : List Char} (free : ':' ∉ text) : splitPlain text = some (String.ofList text, none) := by
  have few : ¬ 1 < text.count ':' := by simp [List.count_eq_zero.mpr free]
  simp only [splitPlain, few, if_false, splitOnce_eq_none.mpr free]

theorem count_colon {host port : List Char} (free : ':' ∉ host) (last : ':' ∉ port) :
    ¬ 1 < (host ++ ':' :: port).count ':' := by
  simp [List.count_eq_zero.mpr free, List.count_eq_zero.mpr last]

theorem splitPlain_emptyHost {port : List Char} (last : ':' ∉ port) : splitPlain (':' :: port) = none := by
  have few : ¬ 1 < (':' :: port).count ':' := count_colon List.not_mem_nil last
  simp only [splitPlain, few, if_false, splitOnce, if_true]

theorem splitPlain_hostPort {host port : List Char} (named : host ≠ []) (free : ':' ∉ host) (last : ':' ∉ port) :
    splitPlain (host ++ ':' :: port) = (parsePort port).map fun port => (String.ofList host, some port) := by
  have few := count_colon free last
  have split := splitOnce_append port free
  obtain ⟨c, rest, rfl⟩ := List.exists_cons_of_ne_nil named
  simp only [splitPlain, few, if_false, split]

theorem head_append {host : List Char} (named : host ≠ []) (rest : List Char) : (host ++ rest).head? = host.head? := by
  cases host with
  | nil => exact absurd rfl named
  | cons c chars => rfl

/-- The kinds of text that name no address. -/
inductive Refused : List Char → Prop
  | empty : Refused []
  | emptyHost (port : List Char) : ':' ∉ port → Refused (':' :: port)
  | emptyBrackets (tail : List Char) : Refused ('[' :: ']' :: tail)
  | unclosed (rest : List Char) : ']' ∉ rest → Refused ('[' :: rest)
  | afterBracket (host : List Char) (c : Char) (tail : List Char) : ']' ∉ host → c ≠ ':' →
      Refused ('[' :: (host ++ ']' :: c :: tail))
  | bracketedPort (host port : List Char) : ']' ∉ host → NoPort port → Refused ('[' :: (host ++ ']' :: ':' :: port))
  | port (host port : List Char) : host.head? ≠ some '[' → ':' ∉ host → ':' ∉ port → NoPort port →
      Refused (host ++ ':' :: port)

/-- A host that is there, with a port of 1 to 65535 or none. -/
def Named (host : String) (port : Option UInt16) : Prop := host ≠ "" ∧ port ≠ some 0

theorem named_host {host : List Char} (nonempty : host ≠ []) : Named (String.ofList host) none :=
  ⟨by simpa using nonempty, by simp⟩

theorem named_port {host text : List Char} (nonempty : host ≠ []) {found : String × Option UInt16}
    (parsed : ((parsePort text).map fun port => (String.ofList host, some port)) = some found) :
    Named found.1 found.2 := by
  obtain ⟨port, read, rfl⟩ := Option.map_eq_some_iff.mp parsed
  exact ⟨by simpa using nonempty, fun zero => parsePort_positive read (Option.some.inj zero)⟩

theorem splitHostPort_cases (text : List Char) :
    (splitHostPort (String.ofList text) = none → Refused text) ∧
    ∀ found, splitHostPort (String.ofList text) = some found → Named found.1 found.2 := by
  have accepted {host : List Char} (nonempty : host ≠ [])
      (split : splitHostPort (String.ofList text) = some (String.ofList host, none)) :
      (splitHostPort (String.ofList text) = none → Refused text) ∧
      ∀ found, splitHostPort (String.ofList text) = some found → Named found.1 found.2 := by
    rw [split]
    refine ⟨by simp, ?_⟩
    intro found same
    cases same
    exact named_host nonempty
  cases shape text with
  | empty => exact ⟨fun _ => .empty, fun found split => by simp [splitHostPort] at split⟩
  | unclosed rest free =>
      rw [split_unclosed free]
      exact ⟨fun _ => .unclosed rest free, by simp⟩
  | emptyBrackets tail =>
      rw [split_emptyBrackets tail]
      exact ⟨fun _ => .emptyBrackets tail, by simp⟩
  | bracketed host named free => exact accepted named (split_bracketed named free)
  | bracketedPort host port named free =>
      rw [split_bracketedPort port named free]
      refine ⟨fun refused => .bracketedPort host port free ?_, fun found => named_port named⟩
      exact parsePort_eq_none.mp (Option.map_eq_none_iff.mp refused)
  | afterBracket host c tail named free other =>
      rw [split_afterBracket tail named free other]
      exact ⟨fun _ => .afterBracket host c tail free other, by simp⟩
  | colons _ plain many =>
      have nonempty : text ≠ [] := by
        rintro rfl
        simp at many
      exact accepted nonempty ((split_plain nonempty plain).trans (splitPlain_colons many))
  | host _ nonempty plain free => exact accepted nonempty ((split_plain nonempty plain).trans (splitPlain_host free))
  | emptyHost port last =>
      rw [split_plain (List.cons_ne_nil _ _) (by simp), splitPlain_emptyHost last]
      exact ⟨fun _ => .emptyHost port last, by simp⟩
  | hostPort host port named plain free last =>
      rw [split_plain (by simp) ((head_append named _).trans_ne plain), splitPlain_hostPort named free last]
      refine ⟨fun refused => .port host port plain free last ?_, fun found => named_port named⟩
      exact parsePort_eq_none.mp (Option.map_eq_none_iff.mp refused)

theorem splitHostPort_inverts :
    (∀ host : List Char, host ≠ [] → ']' ∉ host →
      (∀ port : UInt16, port ≠ 0 →
        splitHostPort (String.ofList ('[' :: (host ++ ']' :: ':' :: displayU16 port))) =
          some (String.ofList host, some port)) ∧
      splitHostPort (String.ofList ('[' :: (host ++ [']']))) = some (String.ofList host, none)) ∧
    (∀ host : List Char, host ≠ [] → ':' ∉ host → host.head? ≠ some '[' →
      (∀ port : UInt16, port ≠ 0 →
        splitHostPort (String.ofList (host ++ ':' :: displayU16 port)) = some (String.ofList host, some port)) ∧
      splitHostPort (String.ofList host) = some (String.ofList host, none)) ∧
    (∀ text : List Char, 2 ≤ text.count ':' → text.head? ≠ some '[' →
      splitHostPort (String.ofList text) = some (String.ofList text, none)) ∧
    (∀ text host port, splitHostPort text = some (host, port) → Named host port) ∧
    ∀ text, splitHostPort text = none → Refused text.toList := by
  refine ⟨?_, ?_, ?_, ?_, ?_⟩
  · intro host named free
    refine ⟨fun port positive => ?_, split_bracketed named free⟩
    rw [split_bracketedPort _ named free, parsePort_display positive]
    rfl
  · intro host named free plain
    refine ⟨fun port positive => ?_, (split_plain named plain).trans (splitPlain_host free)⟩
    have last : ':' ∉ displayU16 port := not_mem_displayU16 (by decide)
    rw [split_plain (by simp) ((head_append named _).trans_ne plain), splitPlain_hostPort named free last,
      parsePort_display positive]
    rfl
  · intro text many plain
    have nonempty : text ≠ [] := by
      rintro rfl
      simp at many
    exact (split_plain nonempty plain).trans (splitPlain_colons many)
  · intro text host port split
    have cases := (splitHostPort_cases text.toList).2 (host, port)
    rw [String.ofList_toList] at cases
    exact cases split
  · intro text refused
    have cases := (splitHostPort_cases text.toList).1
    rw [String.ofList_toList] at cases
    exact cases refused

end Hawse.Proof.Address
