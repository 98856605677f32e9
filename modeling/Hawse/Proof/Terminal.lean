import Hawse.Proof.Client.Frame
import Hawse.Proof.Text
import Hawse.Terminal

namespace Hawse.Proof.Terminal
open Hawse.Terminal
open Std (ExtTreeMap)

/-! ## Escapes -/

theorem skip_append (mode : Skipping) (a b : List Char) : skip mode a <+: skip mode (a ++ b) := by
  induction a generalizing mode with
  | nil =>
      rw [skip.eq_def]
      exact List.nil_prefix
  | cons c a ih =>
      cases mode with
      | nothing =>
          simp only [List.cons_append, skip]
          split
          · exact ih .escape
          · exact (List.prefix_cons_inj c).mpr (ih .nothing)
      | escape =>
          simp only [List.cons_append, skip]
          split
          · exact ih .link
          · exact ih .colour
      | colour =>
          simp only [List.cons_append, skip]
          split
          · exact ih .nothing
          · exact ih .colour
      | link =>
          simp only [List.cons_append, skip]
          split
          · exact ih .closing
          · exact ih .link
      | closing => exact ih .nothing

theorem plain_initial {a b : List Char} (start : a <+: b) : plain a <+: plain b := by
  obtain ⟨rest, rfl⟩ := start
  exact skip_append .nothing a rest

theorem skip_clean (mode : Skipping) (text : List Char) : '\x1b' ∉ skip mode text := by
  induction text generalizing mode with
  | nil => simp [skip]
  | cons c text ih =>
      cases mode with
      | nothing =>
          simp only [skip]
          split
          · exact ih .escape
          · next other => exact List.not_mem_cons_of_ne_of_not_mem (Ne.symm other) (ih .nothing)
      | escape => simp only [skip]; split <;> exact ih _
      | colour => simp only [skip]; split <;> exact ih _
      | link => simp only [skip]; split <;> exact ih _
      | closing => exact ih .nothing

theorem plain_of_clean {text : List Char} (clean : '\x1b' ∉ text) : plain text = text := by
  induction text with
  | nil => rfl
  | cons c text ih =>
      obtain ⟨other, rest⟩ := List.ne_and_not_mem_of_not_mem_cons clean
      have own : plain (c :: text) = c :: plain text := if_neg (Ne.symm other)
      rw [own, ih rest]

theorem skip_colour {code : List Char} (unended : 'm' ∉ code) (rest : List Char) :
    skip .colour (code ++ 'm' :: rest) = plain rest := by
  induction code with
  | nil => rfl
  | cons c code ih =>
      obtain ⟨other, more⟩ := List.ne_and_not_mem_of_not_mem_cons unended
      have own : skip .colour (c :: (code ++ 'm' :: rest)) = skip .colour (code ++ 'm' :: rest) := if_neg (Ne.symm other)
      rw [List.cons_append, own, ih more]

/-! ## Columns -/

theorem trimEnd_initial (text : List Char) : trimEnd text <+: text := by
  have suffix := List.dropWhile_suffix isWhitespace (l := text.reverse)
  rw [← List.reverse_prefix, List.reverse_reverse] at suffix
  exact suffix

section Columns
variable [UnicodeWidth]

theorem columns_le_of_initial {a b : List Char} (start : a <+: b) : columns a ≤ columns b := by
  obtain ⟨rest, whole⟩ := plain_initial start
  unfold columns
  rw [← whole, List.map_append, List.sum_append]
  exact Nat.le_add_right _ _

theorem cut_initial (room taken : Nat) (text : List Char) : cut room taken text <+: text := by
  induction text generalizing taken with
  | nil => exact List.nil_prefix
  | cons c text ih =>
      unfold cut
      split
      · exact (List.prefix_cons_inj c).mpr (ih _)
      · exact List.nil_prefix

theorem cut_sum {room taken : Nat} (inside : taken ≤ room) (text : List Char) :
    taken + ((cut room taken text).map widthOf).sum ≤ room := by
  induction text generalizing taken with
  | nil => simpa [cut] using inside
  | cons c text ih =>
      unfold cut
      split
      · next more =>
          have rest := ih more
          simp only [List.map_cons, List.sum_cons]
          omega
      · simpa using inside

theorem columns_cut (room : Nat) (line : List Char) : columns (cut room 0 (plain line)) ≤ room := by
  have clean : '\x1b' ∉ cut room 0 (plain line) := fun member =>
    skip_clean .nothing line ((cut_initial room 0 _).subset member)
  have sum := cut_sum (Nat.zero_le room) (plain line)
  rw [columns, plain_of_clean clean]
  omega

theorem columns_fit {room : Nat} (told : 0 < room) (fields : List (List Char)) : columns (fit fields room) ≤ room := by
  unfold fit
  simp only
  split
  · exact columns_cut room _
  · next fits => exact Nat.not_lt.mp fun wide => fits ⟨told, wide⟩

theorem columns_fitRows {room : Nat} (told : 0 < room) (rows : List (List (List Char))) {line : List Char}
    (shown : line ∈ fitRows rows room) : columns line ≤ room := by
  obtain ⟨fields, _, rfl⟩ := List.mem_map.mp shown
  exact (columns_le_of_initial (trimEnd_initial _)).trans (columns_fit told _)

theorem joined_initial (room : Nat) (line : List Char) (fields : List (List Char)) :
    line <+: joined room line fields := by
  induction fields generalizing line with
  | nil => exact List.prefix_rfl
  | cons field fields ih =>
      unfold joined
      split
      · exact List.prefix_rfl
      · exact (List.prefix_append line field).trans (ih _)

theorem first_initial (room : Nat) (first : List Char) (fields : List (List Char)) :
    first <+: joined room [] (first :: fields) := by
  unfold joined
  rw [if_neg (by simp)]
  exact joined_initial room first fields

end Columns

/-! ## Lines that say how many more there are -/

/-- No summary looks like this: its third character is not the dots'. -/
def Told (text : List Char) : Prop := text[2]? ≠ some '…' ∧ text[2]? ≠ some '.'

theorem getElem?_initial {a b : List Char} (start : a <+: b) {i : Nat} {c : Char} (found : a[i]? = some c) :
    b[i]? = some c := by
  obtain ⟨rest, rfl⟩ := start
  rw [List.getElem?_append_left (List.getElem?_eq_some_iff.mp found).1]
  exact found

theorem told_initial {a b : List Char} (start : a <+: b) (told : Told b) : Told a :=
  ⟨fun found => told.1 (getElem?_initial start found), fun found => told.2 (getElem?_initial start found)⟩

theorem told_of {text : List Char} {c : Char} (third : text[2]? = some c) (other : c ≠ '…' ∧ c ≠ '.') : Told text := by
  unfold Told
  rw [third]
  exact ⟨fun same => other.1 (Option.some.inj same), fun same => other.2 (Option.some.inj same)⟩

/-- A first field that keeps a line apart from a summary, cut or not. -/
structure Opens (first : List Char) : Prop where
  styled : ∃ c, first[2]? = some c ∧ c ≠ '…' ∧ c ≠ '.'
  cut : ∃ c, (plain first)[2]? = some c ∧ c ≠ '…' ∧ c ≠ '.'

theorem told_fit [UnicodeWidth] {first : List Char} (opens : Opens first) (fields : List (List Char)) (room : Nat) :
    Told (fit (first :: fields) room) := by
  have start := first_initial room first fields
  obtain ⟨c, styled, other⟩ := opens.styled
  obtain ⟨d, cut, apart⟩ := opens.cut
  unfold fit
  simp only
  split
  · exact told_initial (cut_initial _ _ _) (told_of (getElem?_initial (plain_initial start) cut) apart)
  · exact told_of (getElem?_initial start styled) other

theorem opens_header : Opens "  hawse client".toList := ⟨⟨'h', rfl, by decide⟩, 'h', rfl, by decide⟩

/-- A mark, with or without its colour. -/
def Marked (mark : List Char) : Prop :=
  ∃ sign more, (sign ≠ '\x1b' ∧ sign ≠ '…' ∧ sign ≠ '.') ∧
    (mark = sign :: more ∨ ∃ code, 'm' ∉ code ∧ mark = '\x1b' :: '[' :: (code ++ 'm' :: sign :: more))

theorem opens_marked {mark : List Char} (marked : Marked mark) (rest : List Char) :
    Opens ("  ".toList ++ mark ++ rest) := by
  obtain ⟨sign, more, ⟨visible, other⟩, rfl | ⟨code, unended, rfl⟩⟩ := marked
  · have shown : plain ("  ".toList ++ sign :: more ++ rest) = ' ' :: ' ' :: sign :: plain (more ++ rest) := by
      have own : plain (sign :: (more ++ rest)) = sign :: plain (more ++ rest) := if_neg visible
      exact congrArg (' ' :: ' ' :: ·) own
    exact ⟨⟨sign, rfl, other⟩, sign, by rw [shown]; rfl, other⟩
  · have shown : plain ("  ".toList ++ '\x1b' :: '[' :: (code ++ 'm' :: sign :: more) ++ rest) =
        ' ' :: ' ' :: sign :: plain (more ++ rest) := by
      have own : plain (sign :: (more ++ rest)) = sign :: plain (more ++ rest) := if_neg visible
      have coloured := skip_colour unended (sign :: (more ++ rest))
      rw [own] at coloured
      have whole : "  ".toList ++ '\x1b' :: '[' :: (code ++ 'm' :: sign :: more) ++ rest =
          ' ' :: ' ' :: '\x1b' :: '[' :: (code ++ 'm' :: sign :: (more ++ rest)) := by simp
      rw [whole]
      exact congrArg (' ' :: ' ' :: ·) coloured
    exact ⟨⟨'\x1b', rfl, by decide⟩, sign, by rw [shown]; rfl, other⟩

section Summary
variable {Color : Type} (style : Style Color)

theorem summary_injective {n m : Nat} (start : summary style n <+: summary style m) : n = m := by
  obtain ⟨rest, whole⟩ := start
  unfold summary at whole
  rw [List.append_assoc, List.append_cancel_left_eq, List.cons_append, List.cons.injEq] at whole
  have space : " more".toList = ' ' :: "more".toList := rfl
  have split : splitOnce ' ' (decimal n ++ " more".toList ++ rest) = splitOnce ' ' (decimal m ++ " more".toList) :=
    congrArg (splitOnce ' ') whole.2
  rw [space, List.append_assoc, List.cons_append, Text.splitOnce_append _ (Text.not_mem_decimal (by decide)),
    Text.splitOnce_append _ (Text.not_mem_decimal (by decide))] at split
  have digits : decimal n = decimal m := (Prod.mk.inj (Option.some.inj split)).1
  rw [← Text.decimal_foldl n, digits, Text.decimal_foldl]

theorem summary_not_told (n : Nat) : ¬ Told (summary style n) := by
  rintro ⟨dots, stop⟩
  unfold summary Style.pick at dots stop
  split at dots
  · exact dots rfl
  · next ascii =>
      rw [if_neg ascii] at stop
      exact stop rfl

theorem fit_summary [UnicodeWidth] (more room : Nat) : fit [summary style more] room <+: summary style more := by
  have clean : '\x1b' ∉ summary style more := by
    unfold summary Style.pick
    simp only [List.mem_append, List.mem_cons, not_or]
    refine ⟨⟨by decide, by split <;> decide⟩, by decide, Text.not_mem_decimal (by decide), by decide⟩
  have whole : joined room [] [summary style more] = summary style more := by simp [joined]
  unfold fit
  simp only [whole]
  split
  · rw [plain_of_clean clean]
    exact cut_initial room 0 _
  · exact List.prefix_rfl

end Summary

/-! ## Lines left out -/

def visible (lines : List (List Char)) : Nat := (lines.filter (· ≠ [])).length

/-- What is left of the lines once a blank first one has given way. -/
def unpadded (lines : List (List Char)) (height : Nat) : List (List Char) :=
  if 0 < height ∧ height < lines.length ∧ lines.head? = some [] then lines.tail else lines

theorem visible_unpadded (lines : List (List Char)) (height : Nat) : visible (unpadded lines height) = visible lines := by
  unfold unpadded
  split
  · next blank =>
      obtain ⟨rest, rfl⟩ : ∃ rest, lines = [] :: rest := by
        cases lines with
        | nil => cases blank.2.2
        | cons first rest => exact ⟨rest, by rw [Option.some.inj blank.2.2]⟩
      rfl
  · rfl

theorem mem_unpadded {lines : List (List Char)} {height : Nat} {text : List Char} (member : text ∈ unpadded lines height) :
    text ∈ lines := by
  unfold unpadded at member
  split at member
  · exact List.mem_of_mem_tail member
  · exact member

theorem visible_append (a b : List (List Char)) : visible (a ++ b) = visible a + visible b := by
  simp [visible]

section Fold
variable {Color : Type} (style : Style Color) [UnicodeWidth]

/-- A panel of `lines` as it is shown: in so many lines and columns, and with a count of those left out
that is right. -/
structure Fits (width height : Nat) (lines shown : List (List Char)) : Prop where
  height : shown.length ≤ height
  width : ∀ text ∈ shown, columns text ≤ width - 1
  more : ∀ n, shown.getLast? = some (summary style n) → visible lines = visible shown.dropLast + n

theorem fold_eq (lines : List (List Char)) (height room : Nat) : fold style lines height room =
    if height = 1 then (unpadded lines height).take 1
    else if 0 < height ∧ height < (unpadded lines height).length then
      (unpadded lines height).take (height - 1) ++
        [fit [summary style (visible ((unpadded lines height).drop (height - 1)))] room]
    else unpadded lines height := rfl

theorem fits_of_lines {width height : Nat} {lines shown : List (List Char)} (few : shown.length ≤ height)
    (each : ∀ text ∈ shown, Told text ∧ columns text ≤ width - 1) : Fits style width height lines shown := by
  refine ⟨few, fun text member => (each text member).2, fun n last => ?_⟩
  exact absurd (each _ (List.mem_of_getLast? last)).1 (summary_not_told style n)

theorem fold_fits {height room : Nat} (positive : 1 ≤ height) (told : 0 < room) {lines : List (List Char)}
    (each : ∀ text ∈ lines, Told text ∧ columns text ≤ room) :
    Fits style (room + 1) height lines (fold style lines height room) := by
  have left : ∀ text ∈ unpadded lines height, Told text ∧ columns text ≤ room + 1 - 1 := fun text member =>
    each text (mem_unpadded member)
  rw [fold_eq]
  split
  · next one =>
      refine fits_of_lines style (one ▸ List.length_take_le 1 _) fun text member => ?_
      exact left text (List.mem_of_mem_take member)
  · split
    · next many =>
        refine ⟨?_, ?_, ?_⟩
        · rw [List.length_append, List.length_take, List.length_singleton]
          omega
        · intro text member
          rcases List.mem_append.mp member with kept | added
          · exact (left text (List.mem_of_mem_take kept)).2
          · rw [List.mem_singleton.mp added]
            exact columns_fit told _
        · intro n last
          rw [List.getLast?_concat, Option.some.injEq] at last
          have count := fit_summary style (visible ((unpadded lines height).drop (height - 1))) room
          rw [last] at count
          rw [List.dropLast_concat, summary_injective style count, ← visible_append, List.take_append_drop,
            visible_unpadded]
    · next few => exact fits_of_lines style (by omega) left

theorem header_mem_fold {height room : Nat} (positive : 1 ≤ height) (top : List Char) (below : List (List Char)) :
    top ∈ fold style ([] :: top :: below) height room := by
  rw [fold_eq]
  by_cases tall : height < below.length + 2
  · have lines : unpadded ([] :: top :: below) height = top :: below := if_pos ⟨positive, tall, rfl⟩
    rw [lines]
    split
    · simp
    · split
      · obtain ⟨kept, rfl⟩ : ∃ kept, height = kept + 2 := ⟨height - 2, by omega⟩
        simp
      · simp
  · have lines : unpadded ([] :: top :: below) height = [] :: top :: below := if_neg fun padded => tall padded.2.1
    rw [lines, if_neg (by omega), if_neg fun folded => tall folded.2]
    simp

theorem columns_header [UnicodeWidth.Documented] (link : Link) (cfg : ClientConfig) (now room : Nat) :
    0 < columns (joined room [] (header style link cfg now)) := by
  have first : 0 < columns "  hawse client".toList := by
    have space : UnicodeWidth.width ' ' = some 1 := UnicodeWidth.Documented.printable ' ' (by decide) (by decide)
    have shown : plain "  hawse client".toList = "  hawse client".toList := rfl
    have opened : "  hawse client".toList = ' ' :: " hawse client".toList := rfl
    rw [columns, shown, opened, List.map_cons, List.sum_cons, widthOf, space]
    exact Nat.lt_add_right _ Nat.one_pos
  exact first.trans_le (columns_le_of_initial (first_initial room _ _))

end Fold

/-! ## Rows -/

theorem marked_red {Color : Type} (style : Style Color) {sign : Char} (visible : sign ≠ '\x1b' ∧ sign ≠ '…' ∧ sign ≠ '.') : Marked (style.red [sign]) := by
  unfold Style.red
  split
  · exact ⟨sign, _, visible, .inr ⟨['3', '1'], by decide, rfl⟩⟩
  · exact ⟨sign, [], visible, .inl rfl⟩

section Panel
variable {Color : Type} [Anstyle Color] [Anstyle.Documented Color] (style : Style Color)

theorem marked_accented {sign : Char} (visible : sign ≠ '\x1b' ∧ sign ≠ '…' ∧ sign ≠ '.') :
    Marked (style.accented [sign]) := by
  unfold Style.accented
  split
  · next color _ =>
      obtain ⟨code, unended, rendered⟩ := Anstyle.Documented.render_eq color
      exact ⟨sign, Anstyle.renderReset color, visible, .inr ⟨code, unended, by rw [rendered]; simp⟩⟩
  · exact ⟨sign, [], visible, .inl rfl⟩

theorem opens_mark (link : Link) (down up : Nat) (rest : List Char) :
    Opens ("  ".toList ++ mark style link down up ++ rest) := by
  refine opens_marked ?_ rest
  have accented (a b : Char) (visible : (a ≠ '\x1b' ∧ a ≠ '…' ∧ a ≠ '.') ∧ b ≠ '\x1b' ∧ b ≠ '…' ∧ b ≠ '.') :
      Marked (style.accented (style.pick [a] [b])) := by
    unfold Style.pick
    split
    · exact marked_accented style visible.1
    · exact marked_accented style visible.2
  cases link with
  | up transport roundTrip since =>
      simp only [mark]
      split
      · exact accented '●' '*' (by decide)
      · exact accented '○' 'o' (by decide)
  | stopped =>
      simp only [mark, Style.pick]
      split
      · exact marked_red style (by decide)
      · exact marked_red style (by decide)
  | connecting => exact accented '↻' '~' (by decide)
  | down since retryAt => exact accented '↻' '~' (by decide)

/-- The first field of a row is kept whatever is dropped, and no summary opens so. -/
def RowFields (fields : List (List Char)) : Prop := ∃ first rest, fields = first :: rest ∧ Opens first

/-! ### Widths -/

theorem le_largest {sizes : List Nat} {size : Nat} (member : size ∈ sizes) (otherwise : Nat) :
    size ≤ largest sizes otherwise := by
  unfold largest
  cases found : sizes.max? with
  | none =>
      rw [List.max?_eq_none_iff.mp found] at member
      cases member
  | some top => exact (List.max?_eq_some_iff.mp found).2 size member

theorem largest_le {sizes : List Nat} {bound otherwise : Nat} (each : ∀ size ∈ sizes, size ≤ bound)
    (least : otherwise ≤ bound) : largest sizes otherwise ≤ bound := by
  unfold largest
  cases found : sizes.max? with
  | none => exact least
  | some top => exact each top (List.max?_eq_some_iff.mp found).1

theorem len_le (text : List Char) : len text ≤ 4 * text.length := by
  unfold len
  induction text with
  | nil => exact le_rfl
  | cons c text ih =>
      have size := Char.utf8Size_le_four c
      rw [List.map_cons, List.sum_cons, List.length_cons]
      omega

theorem len_append (first second : List Char) : len (first ++ second) = len first + len second := by
  rw [len, List.map_append, List.sum_append]
  rfl

theorem len_toList (text : String) : len text.toList = text.utf8ByteSize := by
  have sized (chars : List Char) : (String.ofList chars).utf8ByteSize = len chars := by
    induction chars with
    | nil => rfl
    | cons c chars ih =>
        rw [String.ofList_cons, String.utf8ByteSize_append, String.utf8ByteSize_singleton, ih]
        rfl
  rw [← sized, String.ofList_toList]

theorem portWidth_le (port : PortRequest) : portWidth port ≤ 65535 := by
  cases port with
  | any kind => cases kind <;> decide
  | fixed port =>
      have digits : (displayU16 port.number).length ≤ 5 :=
        Nat.toDigits_length 10 _ 5 (by decide) (port.number.toNat_lt.trans (by decide))
      refine (len_le _).trans ?_
      unfold Port.display
      split
      · omega
      · rw [List.length_append]
        change 4 * (_ + 4) ≤ _
        omega

theorem fill_le (cfg : ClientConfig) (port : Port) :
    (widths cfg).public_ - len (host cfg ++ ':' :: port.display) ≤ 65535 := by
  have widest : largest (cfg.expose.toList.map fun exposed => portWidth exposed.2.port) 0 ≤ 65535 := by
    refine largest_le ?_ (Nat.zero_le _)
    intro size member
    obtain ⟨exposed, -, rfl⟩ := List.mem_map.mp member
    exact portWidth_le _
  have colon : len (host cfg) + 1 ≤ len (host cfg ++ ':' :: port.display) := by
    rw [len_append]
    exact Nat.add_le_add_left (Nat.le_add_right 1 _) _
  simp only [widths]
  omega

theorem names_le [Ipv6Net] {cfg : ClientConfig} (valid : cfg.validate = .ok ()) : (widths cfg).names ≤ 65535 := by
  refine largest_le ?_ (Nat.zero_le _)
  intro size member
  obtain ⟨exposed, listed, rfl⟩ := List.mem_map.mp member
  have short := Client.Frame.validate_named valid (ExtTreeMap.mem_toList_iff_getElem?_eq_some.mp listed)
  rw [len_toList]
  exact short.trans (by decide)

/-- The subtraction of the padding does not underflow. -/
theorem local_le {cfg : ClientConfig} {exposed : String × Client.Expose} (listed : exposed ∈ cfg.expose.toList) :
    len exposed.2.localAddr.toList ≤ (widths cfg).locals := by
  have member : len exposed.2.localAddr.toList ∈ cfg.expose.toList.map fun exposed => len exposed.2.localAddr.toList :=
    List.mem_map.mpr ⟨exposed, listed, rfl⟩
  exact le_largest member 0

/-- What the local column of each bound row is padded by is a width that a format takes. -/
def Padded (rows : ExtTreeMap String Row) (cfg : ClientConfig) : Prop :=
  ∀ exposed ∈ cfg.expose.toList, ∀ port opened down up, rows[exposed.1]? = some (.bound port opened down up) →
    (widths cfg).locals - len exposed.2.localAddr.toList ≤ 65535

theorem rowFields_some {link : Link} {cfg : ClientConfig} {counts : Nat} {exposed : String × Client.Expose} (row : Row)
    (names : (widths cfg).names ≤ 65535) (listed : exposed ∈ cfg.expose.toList)
    (padded : ∀ port opened down up, row = .bound port opened down up →
      (widths cfg).locals - len exposed.2.localAddr.toList ≤ 65535) :
    ∃ fields, rowFields style link cfg counts exposed.1 exposed.2 row = some fields ∧ RowFields fields := by
  cases row with
  | refused reason =>
      simp only [rowFields, formatWidth, if_pos names]
      refine ⟨_, rfl, _, [], rfl, opens_marked ?_ _⟩
      unfold Style.pick
      split
      · exact marked_red style (by decide)
      · exact marked_red style (by decide)
  | bound port opened down up =>
      simp only [rowFields, serviceFields, if_neg (Nat.not_lt.mpr (local_le listed)), formatWidth, if_pos names,
        if_pos (fill_le cfg port), if_pos (padded port opened down up rfl)]
      exact ⟨_, rfl, _, _, rfl, opens_mark style link down up _⟩

omit [Anstyle.Documented Color] in
theorem padded_of_rowFields {link : Link} {cfg : ClientConfig} {counts : Nat} {service : String}
    {expose : Client.Expose} {port : Port} {opened down up : Nat} {fields : List (List Char)}
    (some : rowFields style link cfg counts service expose (.bound port opened down up) = some fields) :
    (widths cfg).locals - len expose.localAddr.toList ≤ 65535 := by
  by_contra wide
  simp only [rowFields, serviceFields, formatWidth, if_neg wide] at some
  split_ifs at some <;> cases some

theorem mapM_some {α β : Type} {f : α → Option β} {P : β → Prop} {items : List α}
    (each : ∀ item ∈ items, ∃ made, f item = some made ∧ P made) :
    ∃ all, items.mapM f = some all ∧ ∀ made ∈ all, P made := by
  induction items with
  | nil => exact ⟨[], rfl, by simp⟩
  | cons item items ih =>
      obtain ⟨made, own, holds⟩ := each item List.mem_cons_self
      obtain ⟨all, rest, others⟩ := ih fun other member => each other (List.mem_cons_of_mem item member)
      refine ⟨made :: all, by simp [List.mapM_cons, own, rest], ?_⟩
      intro other member
      rcases List.mem_cons.mp member with rfl | member
      · exact holds
      · exact others other member

theorem rowsFields_some [Ipv6Net] (link : Link) {rows : ExtTreeMap String Row} {cfg : ClientConfig}
    (valid : cfg.validate = .ok ()) (padded : Padded rows cfg) :
    ∃ fields, rowsFields style link rows cfg = some fields ∧ ∀ row ∈ fields, RowFields row := by
  refine mapM_some fun shown member => ?_
  obtain ⟨exposed, listed, found⟩ := List.mem_filterMap.mp member
  obtain ⟨row, held, rfl⟩ := Option.map_eq_some_iff.mp found
  refine rowFields_some style row (names_le valid) listed ?_
  rintro port opened down up rfl
  exact padded exposed listed port opened down up held

theorem each_of_mapM {α β : Type} {f : α → Option β} {items : List α} {all : List β} (some : items.mapM f = some all) :
    ∀ item ∈ items, ∃ made, f item = Option.some made := by
  induction items generalizing all with
  | nil => simp
  | cons item items ih =>
      rw [List.mapM_cons] at some
      obtain ⟨made, own, some⟩ := Option.bind_eq_some_iff.mp some
      obtain ⟨rest, others, -⟩ := Option.bind_eq_some_iff.mp some
      intro other member
      rcases List.mem_cons.mp member with rfl | member
      · exact ⟨made, own⟩
      · exact ih others other member

omit [Anstyle.Documented Color] in
theorem padded_of_rowsFields {link : Link} {rows : ExtTreeMap String Row} {cfg : ClientConfig}
    {fields : List (List (List Char))} (some : rowsFields style link rows cfg = some fields) : Padded rows cfg := by
  intro exposed listed port opened down up held
  have shown : (exposed, Row.bound port opened down up) ∈
      cfg.expose.toList.filterMap fun exposed => rows[exposed.1]?.map fun row => (exposed, row) :=
    List.mem_filterMap.mpr ⟨exposed, listed, by rw [held]; rfl⟩
  obtain ⟨made, drawn⟩ := each_of_mapM some _ shown
  exact padded_of_rowFields style drawn

/-! ## Lines -/

variable [UnicodeWidth]

theorem told_fitRows {rows : List (List (List Char))} (opens : ∀ row ∈ rows, RowFields row) {room : Nat}
    {text : List Char} (shown : text ∈ fitRows rows room) : Told text := by
  obtain ⟨fields, member, rfl⟩ := List.mem_map.mp shown
  obtain ⟨first, rest, rfl, opened⟩ := opens fields member
  refine told_initial (trimEnd_initial _) ?_
  split
  · exact told_fit opened _ room
  · exact told_fit opened _ room

theorem panelLines_some [Ipv6Net] (link : Link) {rows : ExtTreeMap String Row} {cfg : ClientConfig}
    (valid : cfg.validate = .ok ()) (padded : Padded rows cfg) (now room : Nat) :
    ∃ below, panelLines style link rows cfg now room = some ([] :: fit (header style link cfg now) room :: below) ∧
      ∀ text ∈ below, Told text ∧ (0 < room → columns text ≤ room) := by
  obtain ⟨fields, some, opens⟩ := rowsFields_some style link valid padded
  refine ⟨if fitRows fields room = [] then [] else [] :: fitRows fields room, by simp [panelLines, some], ?_⟩
  intro text member
  split at member
  · cases member
  · rcases List.mem_cons.mp member with rfl | member
    · exact ⟨⟨by simp, by simp⟩, fun _ => Nat.zero_le room⟩
    · exact ⟨told_fitRows opens member, fun told => columns_fitRows told fields member⟩

omit [Anstyle.Documented Color] in
theorem padded_of_panelLines {link : Link} {rows : ExtTreeMap String Row} {cfg : ClientConfig} {now room : Nat}
    {lines : List (List Char)} (some : panelLines style link rows cfg now room = some lines) : Padded rows cfg := by
  obtain ⟨fields, drawn, -⟩ := Option.map_eq_some_iff.mp some
  exact padded_of_rowsFields style drawn

/-- A panel fits a terminal of two columns and more, unless the local column of a row is padded by more
than a format takes, where the frame panics. -/
theorem frame_fits_iff [UnicodeWidth.Documented] [Ipv6Net] (link : Link) (rows : ExtTreeMap String Row)
    (cfg : ClientConfig) (valid : cfg.validate = .ok ()) (now width height : Nat) (columned : 1 ≤ width)
    (lined : 1 ≤ height) :
    (∀ exposed ∈ cfg.expose.toList, len exposed.2.localAddr.toList ≤ (widths cfg).locals) ∧
    ((∃ lines shown, panelLines style link rows cfg now (width - 1) = some lines ∧
      frame style link rows cfg now width height = some shown ∧ Fits style width height lines shown) ↔
        width ≠ 1 ∧ Padded rows cfg) := by
  refine ⟨fun exposed => local_le, ?_⟩
  constructor
  · rintro ⟨lines, shown, drawn, framed, fits⟩
    have padded := padded_of_panelLines style drawn
    refine ⟨?_, padded⟩
    rintro rfl
    obtain ⟨below, again, -⟩ := panelLines_some style link valid padded now 0
    obtain rfl := Option.some.inj (drawn.symm.trans again)
    rw [frame, drawn] at framed
    obtain rfl := Option.some.inj framed
    have wide := fits.width _ (header_mem_fold style lined _ below)
    have shown := columns_header style link cfg now 0
    exact absurd (shown.trans_le wide) (by omega)
  · rintro ⟨wide, padded⟩
    obtain ⟨room, rfl, told⟩ : ∃ room, width = room + 1 ∧ 0 < room := ⟨width - 1, by omega, by omega⟩
    obtain ⟨below, drawn, each⟩ := panelLines_some style link valid padded now room
    refine ⟨_, _, drawn, by rw [frame, Nat.add_sub_cancel, drawn]; rfl, ?_⟩
    refine fold_fits style lined told fun text member => ?_
    rcases List.mem_cons.mp member with rfl | member
    · exact ⟨⟨by simp, by simp⟩, Nat.zero_le room⟩
    · rcases List.mem_cons.mp member with rfl | member
      · exact ⟨told_fit opens_header _ _, columns_fit told _⟩
      · exact ⟨(each text member).1, (each text member).2 told⟩

end Panel

section Example

local instance narrow : UnicodeWidth where
  width c := if c.toNat < 0x20 ∨ (0x7f ≤ c.toNat ∧ c.toNat < 0xa0) then none else some 1

local instance narrow_documented : UnicodeWidth.Documented where
  printable c low high := if_neg (by omega)

/-- The 256 colours. -/
local instance ansi256 : Anstyle UInt8 where
  render n := '\x1b' :: '[' :: ("38;5;".toList ++ decimal n.toNat ++ ['m'])
  renderReset _ := "\x1b[0m".toList

local instance ansi256_documented : Anstyle.Documented UInt8 where
  render_eq n := ⟨"38;5;".toList ++ decimal n.toNat, by
    rw [List.mem_append, not_or]
    exact ⟨by decide, Text.not_mem_decimal (by decide)⟩, rfl⟩

def orange : Style UInt8 := ⟨true, true, some 166, true⟩

def bare : ClientConfig where
  server := "example.com"
  serverKey := Vector.replicate 32 7
  key := none
  name := none
  expose := ∅
  transport := ⟨.auto, .cubic, 30000000000, (8 : UInt64) <<< 20, (64 : UInt64) <<< 20, (16 : UInt64) <<< 10⟩

local instance clearing : Ipv6Net := ⟨fun net => net.trunc.addr⟩

/-- Two columns are enough for two lines of a panel. -/
theorem frame_fits_two_columns : ∃ lines shown, panelLines orange .connecting ∅ bare 0 1 = some lines ∧
    frame orange .connecting ∅ bare 0 2 2 = some shown ∧ Fits orange 2 2 lines shown := by
  have unexposed : Padded ∅ bare := fun exposed listed => absurd listed List.not_mem_nil
  have fits := (frame_fits_iff orange .connecting ∅ bare (by decide +kernel) 0 2 2 (by decide) (by decide)).2
  exact fits.mpr ⟨by decide, unexposed⟩

/-- In one column nothing is cut. -/
theorem frame_one_column :
    bare.validate = .ok () ∧ (frame orange .connecting ∅ bare 0 1 1).map (·.map columns) = some [45] ∧
    ¬ ∃ lines shown, panelLines orange .connecting ∅ bare 0 0 = some lines ∧
      frame orange .connecting ∅ bare 0 1 1 = some shown ∧ Fits orange 1 1 lines shown := by
  have drawn : (frame orange .connecting ∅ bare 0 1 1).map (·.map columns) = some [45] := by decide +kernel
  refine ⟨by decide +kernel, drawn, ?_⟩
  rintro ⟨lines, shown, _, framed, fits⟩
  rw [framed, Option.map_some, Option.some.injEq] at drawn
  obtain ⟨text, member, wide⟩ : ∃ text ∈ shown, columns text = 45 := by
    have listed : 45 ∈ shown.map columns := by simp [drawn]
    exact List.mem_map.mp listed
  exact absurd (fits.width text member) (by omega)

end Example
end Hawse.Proof.Terminal
