import FamilyOrders.Json.Reader
import Mathlib.Data.List.DropRight
import Mathlib.Tactic.SplitIfs

/-!
# Printed JSON

A value of texts, lists and records, spread over lines, reads back as it was.
The reader stops where the value ends, so nothing is asked of what follows, and
its fuel is enough as soon as it is more than the length of the value's text.
-/

namespace FamilyOrders.Json

open FamilyOrders.Text

/-! ### Texts -/

theorem readUnit_hexLower
    {unit : Nat} (hunit : unit < 0x20) (rest : List Char) :
    readUnit ('0' :: '0' :: hexLower (unit / 16) :: hexLower (unit % 16) ::
      rest) =
        some (unit, rest) := by
  have hunits : ∀ unit : Fin 0x20,
      (do
        let high ← hexValue? (hexLower (unit.val / 16))
        let low ← hexValue? (hexLower (unit.val % 16))
        return high * 16 + low) = some unit.val := by
    decide
  have hread := hunits ⟨unit, hunit⟩
  have hzero : hexValue? '0' = some 0 := by rfl
  obtain ⟨high, hhigh, hrest⟩ := Option.bind_eq_some_iff.mp hread
  obtain ⟨low, hlow, hvalue⟩ := Option.bind_eq_some_iff.mp hrest
  have hsum : high * 16 + low = unit := Option.some.inj hvalue
  simp [readUnit, hzero, hhigh, hlow, hsum]

theorem readText_escapeChar
    (fuel : Nat) (read : List (Option Char)) (c : Char) (rest : List Char) :
    readText (fuel + 1) read (escapeChar c ++ rest) =
      readText fuel (some c :: read) rest := by
  unfold escapeChar
  split_ifs with hquote hslash hline hreturn htab hback hfeed hcontrol
  · subst hquote
    rfl
  · subst hslash
    rfl
  · subst hline
    rfl
  · subst hreturn
    rfl
  · subst htab
    rfl
  · subst hback
    rfl
  · subst hfeed
    rfl
  · have hunit := readUnit_hexLower hcontrol rest
    have hpoint : readCodePoint c.toNat rest = (some c, rest) := by
      have hlow : c.toNat < 0xD800 := by omega
      simp [readCodePoint, hlow]
    change (readUnit ('0' :: '0' :: hexLower (c.toNat / 16) ::
      hexLower (c.toNat % 16) :: rest) >>= fun read' =>
        readText fuel ((readCodePoint read'.1 read'.2).1 :: read)
          (readCodePoint read'.1 read'.2).2) = _
    rw [hunit]
    change readText fuel ((readCodePoint c.toNat rest).1 :: read)
      (readCodePoint c.toNat rest).2 = _
    rw [hpoint]
  · simp [readText, hslash, hcontrol]

theorem readText_flatMap
    (cs : List Char) (rest : List Char) {fuel : Nat} (hfuel : cs.length < fuel)
    (read : List (Option Char)) :
    readText fuel read (cs.flatMap escapeChar ++ '"' :: rest) =
      some (read.reverse ++ cs.map some, rest) := by
  induction cs generalizing fuel read with
  | nil =>
      obtain ⟨fuel, rfl⟩ := Nat.exists_eq_add_one.mpr hfuel
      simp [readText]
  | cons c cs ih =>
      obtain ⟨fuel, rfl⟩ := Nat.exists_eq_add_one.mpr (Nat.zero_lt_of_lt hfuel)
      rw [List.flatMap_cons, List.append_assoc, readText_escapeChar,
        ih (Nat.lt_of_succ_lt_succ hfuel)]
      simp

theorem readString_flatMap (s : String) (rest : List Char) :
    readString (s.toList.flatMap escapeChar ++ '"' :: rest) =
      some (some s, rest) := by
  have hlength (cs : List Char) :
      cs.length ≤ (cs.flatMap escapeChar).length := by
    induction cs with
    | nil => exact Nat.zero_le 0
    | cons c cs ih =>
        have hone : 1 ≤ (escapeChar c).length := by
          unfold escapeChar
          split_ifs <;> simp
        rw [List.flatMap_cons, List.length_append, List.length_cons]
        omega
  have hfuel : s.toList.length <
      (s.toList.flatMap escapeChar ++ '"' :: rest).length + 1 := by
    have hs := hlength s.toList
    rw [List.length_append]
    omega
  unfold readString
  rw [readText_flatMap s.toList rest hfuel]
  have hall (cs : List Char) : (cs.map some).mapM id = some cs := by
    induction cs with
    | nil => rfl
    | cons c cs ih => simp [ih]
  simp [hall]

/-! ### Spaces -/

@[simp] theorem length_newLine (level : Nat) :
    (newLine level).length = 2 * level + 1 := by
  simp [newLine]

@[simp] theorem skipSpace_newLine (level : Nat) (rest : List Char) :
    skipSpace (newLine level ++ rest) = skipSpace rest := by
  have hspaces (n : Nat) :
      skipSpace (List.replicate n ' ' ++ rest) = skipSpace rest := by
    induction n with
    | zero => rfl
    | succ n ih =>
        rw [List.replicate_succ]
        exact ih
  exact hspaces (2 * level)

@[simp] theorem skipSpace_skipSpace (text : List Char) :
    skipSpace (skipSpace text) = skipSpace text := by
  exact List.dropWhile_idempotent isSpace text

theorem skipSpace_cons {c : Char} (hc : isSpace c = false) (rest : List Char) :
    skipSpace (c :: rest) = c :: rest := by
  simp [skipSpace, hc]

theorem readValue_congr
    {text other : List Char} (hsame : skipSpace text = skipSpace other)
    (fuel : Nat) :
    readValue fuel text = readValue fuel other := by
  cases fuel with
  | zero => rfl
  | succ fuel => rw [readValue, readValue, hsame]

theorem readItems_congr
    {text other : List Char} (hsame : skipSpace text = skipSpace other)
    (fuel : Nat) :
    readItems fuel text = readItems fuel other := by
  cases fuel with
  | zero => rfl
  | succ fuel => rw [readItems, readItems, readValue_congr hsame]

theorem readMembers_congr
    {text other : List Char} (hsame : skipSpace text = skipSpace other)
    (fuel : Nat) :
    readMembers fuel text = readMembers fuel other := by
  cases fuel with
  | zero => rfl
  | succ fuel => rw [readMembers, readMembers, hsame]

/-! ### Values -/

/-- The text of a value, whatever follows it, reads back as the value. -/
structure ReadsBack (value : Json) : Prop where
  starts :
    ∀ level, ∃ first rest, value.prettyChars level = first :: rest ∧
      isSpace first = false ∧ first ≠ ']'
  reads :
    ∀ fuel level rest, (value.prettyChars level).length < fuel →
      readValue fuel (value.prettyChars level ++ rest) = some (value, rest)

@[simp] theorem readsBack_string (s : String) : ReadsBack (.string s) := by
  constructor
  case starts => exact fun level => ⟨'"', _, rfl, rfl, by decide⟩
  case reads =>
    intro fuel level rest hfuel
    obtain ⟨fuel, rfl⟩ := Nat.exists_eq_add_one.mpr (Nat.zero_lt_of_lt hfuel)
    have htext : (Json.string s).prettyChars level ++ rest =
        '"' :: (s.toList.flatMap escapeChar ++ '"' :: rest) := by
      simp [prettyChars, scalarChars, quote]
    rw [htext, readValue, skipSpace_cons rfl]
    change (readString (s.toList.flatMap escapeChar ++ '"' :: rest)).map _ = _
    rw [readString_flatMap]
    rfl

theorem readItems_last
    {fuel : Nat} {text rest after : List Char} {item : Json}
    (hread : readValue fuel text = some (item, rest))
    (hclose : skipSpace rest = ']' :: after) :
    readItems (fuel + 1) text = some ([item], after) := by
  simp [readItems, hread, hclose]

theorem readItems_more
    {fuel : Nat} {text rest more after : List Char} {item : Json}
    {items : List Json} (hread : readValue fuel text = some (item, rest))
    (hcomma : skipSpace rest = ',' :: more)
    (hmore : readItems fuel more = some (items, after)) :
    readItems (fuel + 1) text = some (item :: items, after) := by
  simp [readItems, hread, hcomma, hmore]

theorem prettyItems_cons_cons
    (level : Nat) (item next : Json) (items : List Json) :
    prettyItems level (item :: next :: items) =
      newLine level ++ (item.prettyChars level ++
        ',' :: prettyItems level (next :: items)) := by
  simp [prettyItems]

theorem readItems_prettyItems
    {items : List Json} (hitems : ∀ item ∈ items, ReadsBack item)
    (hsome : items ≠ []) {fuel level : Nat} (outer : Nat) (rest : List Char)
    (hfuel : (prettyItems level items).length < fuel) :
    readItems fuel (prettyItems level items ++ (newLine outer ++ ']' :: rest)) =
      some (items, rest) := by
  induction items generalizing fuel with
  | nil => exact absurd rfl hsome
  | cons item items ih =>
      obtain ⟨fuel, rfl⟩ := Nat.exists_eq_add_one.mpr (Nat.zero_lt_of_lt hfuel)
      obtain ⟨hitem, hitems⟩ := List.forall_mem_cons.mp hitems
      have hline := length_newLine level
      cases items with
      | nil =>
          rw [prettyItems, List.length_append] at hfuel
          rw [prettyItems, List.append_assoc,
            readItems_congr (skipSpace_newLine level _)]
          exact readItems_last (hitem.reads fuel level _ (by omega))
            (skipSpace_newLine outer _)
      | cons next items =>
          rw [prettyItems_cons_cons, List.length_append, List.length_append,
            List.length_cons] at hfuel
          have hmore := ih hitems (List.cons_ne_nil next items)
            (show _ < fuel by omega)
          rw [prettyItems_cons_cons, List.append_assoc, List.append_assoc,
            readItems_congr (skipSpace_newLine level _)]
          exact readItems_more (hitem.reads fuel level _ (by omega))
            (skipSpace_cons rfl _) hmore

theorem readValue_array
    {fuel : Nat} {text rest after : List Char} {first : Char}
    {items : List Json}
    (hskip : skipSpace text = first :: rest) (hfirst : first ≠ ']')
    (hitems : readItems fuel text = some (items, after)) :
    readValue (fuel + 1) ('[' :: text) = some (.array items, after) := by
  have hsame : skipSpace (first :: rest) = skipSpace text := by
    rw [← hskip, skipSpace_skipSpace]
  rw [← readItems_congr hsame] at hitems
  simp [readValue, skipSpace_cons, isSpace, hskip, hfirst, hitems]

theorem skipSpace_prettyItems
    {item : Json} (hitem : ReadsBack item) (items : List Json) (level : Nat)
    (rest : List Char) :
    ∃ first more,
      skipSpace (prettyItems level (item :: items) ++ rest) = first :: more ∧
        first ≠ ']' := by
  obtain ⟨first, chars, hstart, hspace, hfirst⟩ := hitem.starts level
  cases items with
  | nil =>
      refine ⟨first, chars ++ rest, ?_, hfirst⟩
      rw [prettyItems, List.append_assoc, skipSpace_newLine, hstart]
      exact skipSpace_cons hspace _
  | cons next items =>
      refine ⟨first, chars ++ ',' :: prettyItems level (next :: items) ++ rest,
        ?_, hfirst⟩
      rw [prettyItems_cons_cons, List.append_assoc, skipSpace_newLine, hstart]
      exact skipSpace_cons hspace _

theorem readsBack_array
    {items : List Json} (hitems : ∀ item ∈ items, ReadsBack item) :
    ReadsBack (.array items) := by
  cases items with
  | nil =>
      constructor
      case starts => exact fun level => ⟨'[', _, rfl, rfl, by decide⟩
      case reads =>
        intro fuel level rest hfuel
        obtain ⟨fuel, rfl⟩ :=
          Nat.exists_eq_add_one.mpr (Nat.zero_lt_of_lt hfuel)
        simp [prettyChars, readValue, skipSpace_cons, isSpace]
  | cons item items =>
      constructor
      case starts => exact fun level => ⟨'[', _, rfl, rfl, by decide⟩
      case reads =>
        intro fuel level rest hfuel
        obtain ⟨fuel, rfl⟩ :=
          Nat.exists_eq_add_one.mpr (Nat.zero_lt_of_lt hfuel)
        have htext : (Json.array (item :: items)).prettyChars level =
            '[' :: (prettyItems (level + 1) (item :: items) ++
              (newLine level ++ [']'])) := by
          simp [prettyChars]
        rw [htext, List.length_cons, List.length_append] at hfuel
        have hread := readItems_prettyItems hitems
          (List.cons_ne_nil item items) level rest
          (show (prettyItems (level + 1) (item :: items)).length <
            fuel by omega)
        obtain ⟨first, more, hskip, hfirst⟩ := skipSpace_prettyItems
          (hitems item List.mem_cons_self) items (level + 1)
          (newLine level ++ ']' :: rest)
        simp only [htext, List.cons_append, List.append_assoc, List.nil_append]
        exact readValue_array hskip hfirst hread

/-! ### Records -/

theorem readMembers_last
    {fuel : Nat} {text rest colon after chars : List Char} {name : String}
    {value : Json} (hquote : skipSpace text = '"' :: chars)
    (hname : readString chars = some (some name, ':' :: colon))
    (hread : readValue fuel colon = some (value, rest))
    (hclose : skipSpace rest = '\x7d' :: after) :
    readMembers (fuel + 1) text = some ([(some name, value)], after) := by
  simp [readMembers, hquote, hname, skipSpace_cons, isSpace, expect, hread,
    hclose]

theorem readMembers_more
    {fuel : Nat} {text rest colon more after chars : List Char} {name : String}
    {value : Json} {members : List (Option String × Json)}
    (hquote : skipSpace text = '"' :: chars)
    (hname : readString chars = some (some name, ':' :: colon))
    (hread : readValue fuel colon = some (value, rest))
    (hcomma : skipSpace rest = ',' :: more)
    (hmore : readMembers fuel more = some (members, after)) :
    readMembers (fuel + 1) text =
      some ((some name, value) :: members, after) := by
  simp [readMembers, hquote, hname, skipSpace_cons, isSpace, expect, hread,
    hcomma, hmore]

theorem prettyMembers_cons_cons
    (level : Nat) (member next : String × Json)
    (members : List (String × Json)) :
    prettyMembers level (member :: next :: members) =
      prettyMembers level [member] ++
        ',' :: prettyMembers level (next :: members) := by
  simp [prettyMembers]

theorem skipSpace_prettyMembers
    (member : String × Json) (members : List (String × Json)) (level : Nat)
    (rest : List Char) :
    ∃ more,
      skipSpace (prettyMembers level (member :: members) ++ rest) =
        '"' :: more := by
  cases members with
  | nil =>
      simp [prettyMembers, quote, skipSpace_cons, isSpace]
  | cons next members =>
      simp [prettyMembers, quote, skipSpace_cons, isSpace]

theorem readMembers_prettyMembers
    {members : List (String × Json)}
    (hmembers : ∀ member ∈ members, ReadsBack member.2)
    (hsome : members ≠ []) {fuel level : Nat} (outer : Nat) (rest : List Char)
    (hfuel : (prettyMembers level members).length < fuel) :
    readMembers fuel
        (prettyMembers level members ++ (newLine outer ++ '\x7d' :: rest)) =
      some (members.map fun member => (some member.1, member.2), rest) := by
  induction members generalizing fuel with
  | nil => exact absurd rfl hsome
  | cons member members ih =>
      obtain ⟨fuel, rfl⟩ := Nat.exists_eq_add_one.mpr (Nat.zero_lt_of_lt hfuel)
      obtain ⟨hmember, hmembers⟩ := List.forall_mem_cons.mp hmembers
      have hline (after : List Char) :
          skipSpace (prettyMembers level [member] ++ after) =
            '"' :: (member.1.toList.flatMap escapeChar ++
              '"' :: (':' :: ' ' ::
                (member.2.prettyChars level ++ after))) := by
        simp [prettyMembers, quote, skipSpace_cons, isSpace]
      have hlength : (member.2.prettyChars level).length + 3 ≤
          (prettyMembers level [member]).length := by
        simp [prettyMembers, quote]
        omega
      have hspace (after : List Char) :
          readValue fuel (' ' :: after) = readValue fuel after := by
        apply readValue_congr
        rfl
      cases members with
      | nil =>
          apply readMembers_last (hline _) (readString_flatMap member.1 _)
          · rw [hspace, hmember.reads fuel level _ (by omega)]
          · exact skipSpace_newLine outer _
      | cons next members =>
          rw [prettyMembers_cons_cons, List.length_append, List.length_cons]
            at hfuel
          have hmore := ih hmembers (List.cons_ne_nil next members)
            (show _ < fuel by omega)
          rw [prettyMembers_cons_cons, List.append_assoc]
          apply readMembers_more (hline _) (readString_flatMap member.1 _)
          · rw [hspace, hmember.reads fuel level _ (by omega)]
          · exact skipSpace_cons rfl _
          · exact hmore

theorem objectOf_map (members : List (String × Json)) :
    objectOf (members.map fun member => (some member.1, member.2)) =
      .object members := by
  have hall : (members.map fun member => (some member.1, member.2)).mapM
      (fun member : Option String × Json =>
        member.1.map fun name => (name, member.2)) = some members := by
    induction members with
    | nil => rfl
    | cons member members ih => simp [ih]
  unfold objectOf
  rw [hall]

theorem readValue_object
    {fuel : Nat} {text rest after : List Char} {members : List (String × Json)}
    (hskip : skipSpace text = '"' :: rest)
    (hmembers :
      readMembers fuel text =
        some (members.map fun member => (some member.1, member.2), after)) :
    readValue (fuel + 1) ('\x7b' :: text) = some (.object members, after) := by
  have hsame : skipSpace ('"' :: rest) = skipSpace text := by
    rw [← hskip, skipSpace_skipSpace]
  rw [← readMembers_congr hsame] at hmembers
  simp [readValue, skipSpace_cons, isSpace, hskip, hmembers, objectOf_map]

theorem readsBack_object
    {members : List (String × Json)}
    (hmembers : ∀ member ∈ members, ReadsBack member.2) :
    ReadsBack (.object members) := by
  cases members with
  | nil =>
      constructor
      case starts => exact fun level => ⟨'\x7b', _, rfl, rfl, by decide⟩
      case reads =>
        intro fuel level rest hfuel
        obtain ⟨fuel, rfl⟩ :=
          Nat.exists_eq_add_one.mpr (Nat.zero_lt_of_lt hfuel)
        simp [prettyChars, readValue, skipSpace_cons, isSpace]
  | cons member members =>
      constructor
      case starts => exact fun level => ⟨'\x7b', _, rfl, rfl, by decide⟩
      case reads =>
        intro fuel level rest hfuel
        obtain ⟨fuel, rfl⟩ :=
          Nat.exists_eq_add_one.mpr (Nat.zero_lt_of_lt hfuel)
        have htext : (Json.object (member :: members)).prettyChars level =
            '\x7b' :: (prettyMembers (level + 1) (member :: members) ++
              (newLine level ++ ['\x7d'])) := by
          simp [prettyChars]
        rw [htext, List.length_cons, List.length_append] at hfuel
        have hread := readMembers_prettyMembers hmembers
          (List.cons_ne_nil member members) level rest
          (show (prettyMembers (level + 1) (member :: members)).length < fuel by
            omega)
        obtain ⟨more, hskip⟩ :=
          skipSpace_prettyMembers member members (level + 1)
          (newLine level ++ '\x7d' :: rest)
        simp only [htext, List.cons_append, List.append_assoc, List.nil_append]
        exact readValue_object hskip hread

/-! ### Whole texts -/

theorem parse?_of_readsBack {value : Json} (hvalue : ReadsBack value) :
    parse? (value.pretty ++ "\n") = some value := by
  have hlength : (value.prettyChars 0).length <
      (value.pretty ++ "\n").length + 1 := by
    rw [String.length_append]
    simp only [pretty, String.length_ofList]
    omega
  have hread := hvalue.reads _ 0 ['\n'] hlength
  have htext :
      (value.pretty ++ "\n").toList = value.prettyChars 0 ++ ['\n'] := by
    simp [pretty]
  unfold parse?
  rw [htext, hread]
  rfl

end FamilyOrders.Json
