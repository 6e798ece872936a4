import FamilyOrders.Drafting.Basic
import FamilyOrders.Proofs.PrintedDates
import FamilyOrders.Proofs.ToldEnds

/-!
# The nouns for the children

The words for one child or several that a text holds, and those of the sentences
of orders.
-/

namespace FamilyOrders

/-! ## The nouns for the children in a text

A text names the children by one of two nouns, and each place of the text at
which it does so tells their number.  A noun cannot reach across a character
that is no letter, so the nouns of a sentence are those of the values that are
put between its fixed words. -/

namespace GrammaticalNumber

variable {language : Language}

/-- Wherever the text names the children, it does so in this number.  The plural
noun may begin with the singular one. -/
def Agrees (number : GrammaticalNumber) (language : Language) (text : String) :
    Prop :=
  ∀ rest, rest <:+ text.toList →
    match number with
    | .singular => ¬(plural.child language).toList <+: rest
    | .plural =>
      (singular.child language).toList <+: rest →
      (plural.child language).toList <+: rest

/-- One of the two nouns stands somewhere in the text. -/
def IsNamed (language : Language) (text : String) : Prop :=
  ∃ number : GrammaticalNumber, (number.child language).toList <:+: text.toList

/-- The number in which a text names the children at its very start. -/
def nounAt (language : Language) (cs : List Char) : Option GrammaticalNumber :=
  if (plural.child language).toList <+: cs then some .plural
  else if (singular.child language).toList <+: cs then some .singular
  else none

/-- The numbers in which a text names the children, place by place. -/
def nouns (language : Language) : List Char → List GrammaticalNumber
  | [] => []
  | c :: cs => (nounAt language (c :: cs)).toList ++ nouns language cs

theorem nounAt_nil (language : Language) :
    nounAt language [] = none := by
  cases language <;> decide

theorem mem_nouns_iff
    {number : GrammaticalNumber} {cs : List Char} :
    number ∈ nouns language cs ↔
      ∃ rest, rest <:+ cs ∧ nounAt language rest = some number := by
  induction cs with
  | nil => simp [nouns, List.suffix_nil, nounAt_nil]
  | cons c cs ih =>
      simp [nouns, ih, List.suffix_cons_iff, or_and_right, exists_or]

example :
  nouns .english "the children or the child".toList = [.plural, .singular] := by
    decide

theorem agrees_iff
    {number : GrammaticalNumber} {text : String} :
    number.Agrees language text ↔
      ∀ found ∈ nouns language text.toList, found = number := by
  have hplace : ∀ rest,
      (∀ found, nounAt language rest = some found → found = number) ↔
        match number with
        | .singular => ¬(plural.child language).toList <+: rest
        | .plural =>
            (singular.child language).toList <+: rest →
            (plural.child language).toList <+: rest := by
    intro rest
    by_cases hplural : (plural.child language).toList <+: rest
    · cases number <;> simp [nounAt, hplural]
    · by_cases hsingular : (singular.child language).toList <+: rest
      · cases number <;> simp [nounAt, hplural, hsingular]
      · cases number <;> simp [nounAt, hplural, hsingular]
  unfold Agrees
  simp only [mem_nouns_iff, ← hplace]
  constructor
  · rintro hall found ⟨rest, hrest, hfound⟩
    exact hall rest hrest found hfound
  · intro hall rest hrest found hfound
    exact hall found ⟨rest, hrest, hfound⟩

theorem isInfix_of_mem_nouns
    {number : GrammaticalNumber} {cs : List Char}
    (hmem : number ∈ nouns language cs) :
    (number.child language).toList <:+: cs := by
  obtain ⟨rest, hrest, hnoun⟩ := mem_nouns_iff.mp hmem
  suffices hword : (number.child language).toList <+: rest from
    hword.isInfix.trans hrest.isInfix
  unfold nounAt at hnoun
  split at hnoun
  · cases hnoun
    assumption
  · split at hnoun
    · cases hnoun
      assumption
    · contradiction

theorem exists_nounAt
    {number : GrammaticalNumber} {cs : List Char}
    (hword : (number.child language).toList <+: cs) :
    ∃ found, nounAt language cs = some found := by
  unfold nounAt
  cases number with
  | plural => exact ⟨.plural, if_pos hword⟩
  | singular =>
      rw [if_pos hword]
      split
      · exact ⟨.plural, rfl⟩
      · exact ⟨.singular, rfl⟩

theorem nouns_eq_nil_iff
    {text : String} :
    nouns language text.toList = [] ↔ ¬IsNamed language text := by
  rw [List.eq_nil_iff_forall_not_mem]
  constructor
  · rintro hnone ⟨number, before, after, htext⟩
    obtain ⟨found, hfound⟩ :=
      exists_nounAt (List.prefix_append (number.child language).toList after)
    refine hnone found (mem_nouns_iff.mpr ⟨_, ?_, hfound⟩)
    rw [← htext, List.append_assoc]
    exact List.suffix_append before _
  · intro hnamed number hmem
    exact hnamed ⟨number, isInfix_of_mem_nouns hmem⟩

/-- All the nouns share a letter. -/
theorem nouns_of_notMem
    {cs : List Char} (hletter : 'l' ∉ cs) :
    nouns language cs = [] := by
  rw [List.eq_nil_iff_forall_not_mem]
  intro number hmem
  have hshared : 'l' ∈ (number.child language).toList := by
    cases number <;> cases language <;> decide
  exact hletter ((isInfix_of_mem_nouns hmem).subset hshared)

/-! ### Sentences -/

theorem isPrefix_append_cons_iff
    {word a b : List Char} {c : Char} (hc : c ∉ word) :
    word <+: a ++ c :: b ↔ word <+: a := by
  constructor
  · intro hword
    rcases List.prefix_or_prefix_of_prefix hword
      (List.prefix_append a _) with hshort | hlong
    · exact hshort
    · obtain ⟨more, rfl⟩ := hlong
      rw [List.prefix_append_right_inj] at hword
      cases more with
      | nil => exact (List.append_nil a).symm ▸ List.prefix_rfl
      | cons d more =>
          obtain ⟨rfl, -⟩ := List.cons_prefix_cons.mp hword
          exact absurd (List.mem_append_right a List.mem_cons_self) hc
  · intro hword
    exact hword.trans (List.prefix_append a _)

theorem notMem_child
    {c : Char} (hc : c.isAlpha = false) (number : GrammaticalNumber)
    (language : Language) : c ∉ (number.child language).toList := by
  have hletters : (number.child language).toList.all Char.isAlpha = true := by
    cases number <;> cases language <;> decide
  intro hmem
  rw [List.all_eq_true.mp hletters c hmem] at hc
  contradiction

theorem nouns_append_cons
    {c : Char} (hc : c.isAlpha = false) (a b : List Char) :
    nouns language (a ++ c :: b) = nouns language a ++ nouns language b := by
  have hfirst : ∀ a, nounAt language (a ++ c :: b) = nounAt language a := by
    intro a
    simp only [nounAt, isPrefix_append_cons_iff (notMem_child hc _ language)]
  -- By `hfirst` every place of `a` keeps its noun, and there is none at the
  -- character itself.
  induction a with
  | nil =>
      have hnone : nounAt language (c :: b) = none :=
        (hfirst []).trans (nounAt_nil language)
      simp [nouns, hnone]
  | cons d a ih =>
      have hsame :
          nounAt language (d :: (a ++ c :: b)) = nounAt language (d :: a) :=
        hfirst (d :: a)
      simp [nouns, hsame, ih]

theorem nouns_cons
    {c : Char} (hc : c.isAlpha = false) (cs : List Char) :
    nouns language (c :: cs) = nouns language cs :=
  nouns_append_cons hc [] cs

theorem nouns_append_of_last
    {a : List Char} (ha : a.getLast?.any (!·.isAlpha) = true) (b : List Char) :
    nouns language (a ++ b) = nouns language a ++ nouns language b := by
  rcases List.eq_nil_or_concat a with rfl | ⟨front, c, rfl⟩
  · rfl
  · have hc : c.isAlpha = false := by simpa using ha
    simp [List.concat_eq_append, nouns_append_cons hc, nouns]

theorem nouns_append_of_first
    {b : List Char} (hb : b.head?.all (!·.isAlpha) = true) (a : List Char) :
    nouns language (a ++ b) = nouns language a ++ nouns language b := by
  cases b with
  | nil => simp [nouns]
  | cons c b =>
      have hc : c.isAlpha = false := by simpa using hb
      rw [nouns_append_cons hc, nouns_cons hc]

/-- A sentence made of fixed words and of values, each with the words that
follow it. -/
def woven (start : String) : List (String × String) → String
  | [] => start
  | (value, link) :: rest => start ++ (value ++ woven link rest)

/-- The fixed words of a sentence leave the children to its values, and no
letter of theirs touches a value. -/
def isFrame (language : Language) (start : String) : List String → Bool
  | [] => (nouns language start.toList).isEmpty
  | link :: links =>
    (nouns language start.toList).isEmpty &&
      start.toList.getLast?.any (!·.isAlpha) &&
      link.toList.head?.all (!·.isAlpha) && isFrame language link links

theorem head?_woven
    {link : String} {rest : List (String × String)}
    (hfirst : link.toList.head?.all (!·.isAlpha) = true)
    (hframe : isFrame language link (rest.map (·.2)) = true) :
    (woven link rest).toList.head?.all (!·.isAlpha) = true := by
  cases rest with
  | nil => exact hfirst
  | cons value rest =>
      simp only [List.map_cons, isFrame, Bool.and_eq_true] at hframe
      obtain ⟨⟨⟨-, hlast⟩, -⟩, -⟩ := hframe
      cases hlink : link.toList with
      | nil => simp [hlink] at hlast
      | cons c cs =>
          rw [hlink] at hfirst
          rw [woven, String.toList_append, hlink]
          exact hfirst

/-- A sentence names the children as its values do. -/
theorem nouns_of_woven
    {start text : String} {values : List (String × String)}
    (htext : text = woven start values)
    (hframe : isFrame language start (values.map (·.2)) = true) :
    nouns language text.toList = values.flatMap fun value =>
      nouns language value.1.toList := by
  rw [htext]
  clear htext
  induction values generalizing start with
  | nil => simpa [isFrame, woven] using hframe
  | cons value rest ih =>
      obtain ⟨value, link⟩ := value
      simp only [List.map_cons, isFrame, Bool.and_eq_true,
        List.isEmpty_iff] at hframe
      obtain ⟨⟨⟨hstart, hlast⟩, hfirst⟩, hrest⟩ := hframe
      rw [woven, String.toList_append, nouns_append_of_last hlast, hstart,
        List.nil_append, String.toList_append,
          nouns_append_of_first (head?_woven hfirst hrest), ih hrest,
        List.flatMap_cons]

end GrammaticalNumber

/-! ## How sentences name the children

The sentences of the five orders that are worded for the number of their
children.  Each of them names the children once, in that number, if the values
put into it do not name them.  Dates, moments and numerals never do. -/

open FamilyOrders.Calendar FamilyOrders.Drafting FamilyOrders.Text
  GrammaticalNumber

variable {language : Language} {number : GrammaticalNumber}

/-! ### What is put into the sentences -/

@[simp] theorem GrammaticalNumber.nouns_child (number : GrammaticalNumber)
    (language : Language) :
    nouns language (number.child language).toList = [number] := by
  cases number <;> cases language <;> decide

@[simp] theorem GrammaticalNumber.nouns_isPlaced (number : GrammaticalNumber)
    (language : Language) :
    nouns language (number.isPlaced language).toList = [] := by
  cases number <;> cases language <;> decide

namespace Calendar

theorem nouns_monthName (language : Language) (month : Fin 12) :
    nouns language (monthName language month).toList = [] := by
  revert month
  cases language <;> decide

theorem Date.nouns_printedChars (date : Date) (language : Language) :
    nouns language (date.printedChars language) = [] := by
  have hblank : ' '.isAlpha = false := by decide
  have hday : nouns language (digits date.day) = [] :=
    nouns_of_notMem (notMem_digits (by decide) _)
  have hyear : nouns language (printedYear language date.year) = [] :=
    nouns_of_notMem (notMem_printedYear (by decide) (by decide)
      (by decide) language _)
  rw [printedChars, nouns_append_cons hblank, nouns_append_cons hblank, hday,
    nouns_monthName, hyear]
  rfl

theorem TimeOfDay.nouns_printedChars (time : TimeOfDay) (language : Language) :
    nouns language time.printedChars = [] := by
  apply nouns_of_notMem
  have hhour := notMem_digits (c := 'l') (by decide) time.clockHour
  have hminute := notMem_paddedDigits (c := 'l') (by decide) 2 time.minute.val
  unfold printedChars
  split <;> simp [hhour, hminute]

end Calendar

theorem Ending.Dated.nouns_eq
    {ending : Ending} {printed : String}
    (hdated : ending.Dated language printed) :
    nouns language printed.toList = [] := by
  cases hdated with
  | day date =>
      rw [Date.printed, String.toList_ofList]
      exact date.nouns_printedChars language
  | moment moment =>
      have hblank : ' '.isAlpha = false := by decide
      have hcomma : ','.isAlpha = false := by decide
      rw [Moment.printed, String.toList_ofList, List.append_assoc,
        List.cons_append, nouns_append_cons hcomma, List.singleton_append,
          nouns_cons hblank,
        Date.nouns_printedChars, TimeOfDay.nouns_printedChars]
      rfl

namespace Drafting

theorem nouns_until
    {ending : Ending} {printed after : String}
    (hdated : ending.Dated language printed)
    (hafter : after = "" ∨ after = ".") :
    nouns language (untilWord language ++ printed ++ after).toList = [] := by
  have hframe : isFrame language (untilWord language) [after] = true := by
    rcases hafter with rfl | rfl <;> cases language <;> decide
  have hwoven : untilWord language ++ printed ++ after =
      woven (untilWord language) [(printed, after)] := by
    simp only [woven, String.append_assoc]
  rw [nouns_of_woven hwoven hframe]
  simp [hdated.nouns_eq]

theorem nouns_interimCareEnd
    {ending : Ending} {sentence : String}
    (hsentence : interimCareEnd language ending = .ok sentence) :
    nouns language sentence.toList = [] := by
  rcases interimCareEnd_cases hsentence with ⟨printed, hdated, rfl⟩ | rfl
  · exact nouns_until hdated (.inl rfl)
  · cases hsentence
    cases language <;> decide

theorem nouns_interimSupervisionEnd
    {ending : Ending} {sentence : String}
    (hsentence : interimSupervisionEnd language ending = .ok sentence) :
    nouns language sentence.toList = [] := by
  rcases interimSupervisionEnd_cases hsentence with ⟨printed, hdated, rfl⟩ | rfl
  · exact nouns_until hdated (.inr rfl)
  · cases hsentence
    cases language <;> decide

theorem nouns_supervisionForMonths (language : Language) (months : UInt32)
    (last : Date) :
    nouns language (supervisionForMonths language months last).toList = [] := by
  have hnumeral : nouns language (Nat.toDigits 10 months.toNat) = [] :=
    nouns_of_notMem (notMem_digits (by decide) _)
  have hword : nouns language (monthsWord months).toList = [] := by
    unfold monthsWord
    split <;> cases language <;> decide
  have hlast : nouns language (last.printed language).toList = [] :=
    (Ending.Dated.day last).nouns_eq
  cases language with
  | english =>
      have hframe :
          isFrame .english "for " [" ", " from the date of this order until ",
            "."] =
          true := by decide
      have hwoven : supervisionForMonths .english months last =
          woven "for " [(toString months.toNat, " "),
            (monthsWord months, " from the date of this order until "),
            (last.printed .english, ".")] := by
        unfold supervisionForMonths
        simp only [woven, String.append_assoc]
      rw [nouns_of_woven hwoven hframe]
      simp [hnumeral, hword, hlast]
  | welsh =>
      have hframe :
          isFrame .welsh "am " [" mis o ddyddiad y gorchymyn hwn tan ", "."] =
            true := by
        decide
      have hwoven : supervisionForMonths .welsh months last =
          woven "am " [(toString months.toNat,
            " mis o ddyddiad y gorchymyn hwn tan "),
              (last.printed .welsh, ".")] := by
        unfold supervisionForMonths
        simp only [woven, String.append_assoc]
      rw [nouns_of_woven hwoven hframe]
      simp [hnumeral, hlast]

theorem nouns_supervisionEnd
    {ending : Ending} {sentence : String}
    (hsentence : supervisionEnd language ending = .ok sentence) :
    nouns language sentence.toList = [] := by
  rcases supervisionEnd_cases hsentence with ⟨printed, hdated, rfl⟩ | ⟨months,
    last, rfl⟩
  · exact nouns_until hdated (.inr rfl)
  · cases hsentence
    exact nouns_supervisionForMonths language months last

/-! ### The sentences -/

variable {authority : String}

theorem nouns_placement
    (number : GrammaticalNumber)
    (hauthority : nouns language authority.toList = []) :
    nouns language (placement language number authority).toList = [number] := by
  cases language with
  | english =>
      have hframe :
          isFrame .english "The Court orders that the " [" ",
            " in the care of ", ""] =
          true := by decide
      have hwoven : placement .english number authority =
          woven "The Court orders that the " [(number.child .english, " "),
            (number.isPlaced .english, " in the care of "),
            (authority, "")] := by
        unfold placement
        simp only [woven, String.append_assoc, String.append_empty]
      rw [nouns_of_woven hwoven hframe]
      simp [hauthority]
  | welsh =>
      have hframe :
          isFrame .welsh "Mae'r Llys yn gorchymyn bod y " [" ", " yng ngofal ",
            ""] =
          true := by decide
      have hwoven : placement .welsh number authority =
          woven "Mae'r Llys yn gorchymyn bod y " [(number.child .welsh, " "),
            (number.isPlaced .welsh, " yng ngofal "), (authority, "")] := by
        unfold placement
        simp only [woven, String.append_assoc, String.append_empty]
      rw [nouns_of_woven hwoven hframe]
      simp [hauthority]

theorem nouns_care
    (number : GrammaticalNumber)
    (hauthority : nouns language authority.toList = []) :
    nouns language (placement language number authority ++ ".").toList =
      [number] := by
  have hstop : nouns language ".".toList = [] := by
    cases language <;> decide
  rw [String.toList_append, nouns_append_of_first (by decide),
    nouns_placement number hauthority, hstop]
  rfl

theorem nouns_interimCare
    (number : GrammaticalNumber) {lasting : String}
    (hauthority : nouns language authority.toList = [])
    (hlasting : nouns language lasting.toList = []) :
    nouns language (placement language number authority ++ " " ++ lasting ++
      ".").toList =
        [number] := by
  have hframe : isFrame language " " ["."] = true := by
    cases language <;> decide
  have hend : nouns language (woven " " [(lasting, ".")]).toList = [] := by
    rw [nouns_of_woven rfl hframe]
    simp [hlasting]
  have hfirst :
      (woven " " [(lasting, ".")]).toList.head?.all (!·.isAlpha) = true :=
    head?_woven (by decide) hframe
  have hsentence :
      placement language number authority ++ " " ++ lasting ++ "." =
        placement language number authority ++ woven " " [(lasting, ".")] := by
    simp only [woven, String.append_assoc]
  rw [hsentence, String.toList_append, nouns_append_of_first hfirst,
    nouns_placement number hauthority, hend]
  rfl

theorem nouns_supervision
    (number : GrammaticalNumber) {last : String}
    (hauthority : nouns language authority.toList = [])
    (hlast : nouns language last.toList = []) :
    nouns language (supervisionStart language number authority ++ last).toList =
      [number] := by
  cases language with
  | english =>
      have hframe :
          isFrame .english "The Court orders " [" to supervise the ", " ", ""] =
            true := by
        decide
      have hwoven : supervisionStart .english number authority ++ last =
          woven "The Court orders " [(authority, " to supervise the "),
            (number.child .english, " "), (last, "")] := by
        unfold supervisionStart
        simp only [woven, String.append_assoc, String.append_empty]
      rw [nouns_of_woven hwoven hframe]
      simp [hauthority, hlast]
  | welsh =>
      have hframe :
          isFrame .welsh "Mae'r Llys yn gorchymyn i " [" oruchwylio'r ", " ",
            ""] =
          true := by decide
      have hwoven : supervisionStart .welsh number authority ++ last =
          woven "Mae'r Llys yn gorchymyn i " [(authority, " oruchwylio'r "),
            (number.child .welsh, " "), (last, "")] := by
        unfold supervisionStart
        simp only [woven, String.append_assoc, String.append_empty]
      rw [nouns_of_woven hwoven hframe]
      simp [hauthority, hlast]

theorem nouns_emergencySentence
    {kind : EmergencyKind} {address : Option String} {sentence : String}
    (hauthority : nouns .english authority.toList = [])
    (haddress : ∀ line, address = some line → nouns .english line.toList = [])
    (hsentence :
      emergencySentence kind (number.child .english) authority address =
        .ok sentence) :
    nouns .english sentence.toList = [number] := by
  cases kind with
  | removeToAccommodation =>
      have hframe : isFrame .english "The Court authorises " [" to remove the ",
          " to accommodation provided by or on behalf of the applicant."] =
            true := by decide
      have hwoven : sentence =
          woven "The Court authorises "
            [(authority, " to remove the "), (number.child .english,
              " to accommodation provided by or on behalf of the applicant.")]
          := by
        rw [← Except.ok.inj hsentence]
        simp only [woven, String.append_assoc]
      rw [nouns_of_woven hwoven hframe]
      simp [hauthority]
  | preventRemoval =>
      obtain ⟨line, hline, hsentence⟩ := bind_eq_ok_iff.mp hsentence
      have hframe : isFrame .english
          "The Court authorises the applicant to prevent the removal of the "
            [" from ", "."] =
              true := by decide
      have hwoven : sentence =
          woven
            "The Court authorises the applicant to prevent the removal of the "
            [(number.child .english, " from "), (line, ".")] := by
        rw [← Except.ok.inj hsentence]
        simp only [woven, String.append_assoc]
      rw [nouns_of_woven hwoven hframe]
      simp [haddress line (need_eq_ok_iff.mp hline)]

theorem nouns_exclusionSentence
    {excluded home : String} (number : GrammaticalNumber) (start : Date)
    (hexcluded : nouns .english excluded.toList = []) :
    nouns .english (exclusionSentence (number.child .english) excluded home
      (start.printed .english)).toList = nouns .english home.toList ++
        [number] := by
  have hstart : nouns .english (start.printed .english).toList = [] :=
    (Ending.Dated.day start).nouns_eq
  have hframe :
      isFrame .english "The Court directs that " [" be excluded from ",
        " from ", " so that the ", " may continue to live there."] =
          true := by decide
  have hwoven : exclusionSentence (number.child .english) excluded home
        (start.printed .english) =
      woven "The Court directs that " [(excluded, " be excluded from "),
        (home, " from "), (start.printed .english, " so that the "),
        (number.child .english, " may continue to live there.")] := by
    unfold exclusionSentence
    simp only [woven, String.append_assoc]
  rw [nouns_of_woven hwoven hframe]
  simp [hexcluded, hstart]

end Drafting

end FamilyOrders
