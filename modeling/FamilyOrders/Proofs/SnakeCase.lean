import FamilyOrders.Proofs.Characters
import FamilyOrders.Proofs.Encodings
import FamilyOrders.Text.Characters

/-!
# Snake case, letter by letter

A text is brought to snake case by a reader that goes over it once and remembers
what it has written and whether the last character was a lower-case one.  What
comes out can be told without this reader: the letters and numbers of the text,
the upper-case ones lowered, and between two that follow each other an
underscore or none, which depends on these two and on what stands between them
alone.
-/

namespace FamilyOrders.Text

/-! ## What is written for a text -/

/-- What is written for a letter or number. -/
def spelling (c : Char) : List Char :=
  if isUppercase c then lowercase c else [c]

/-- No letters or numbers, so nothing of the text is written. -/
def Wordless (cs : List Char) : Prop :=
  ∀ c ∈ cs, isAlphanumeric c = false

/-- An underscore is written between two letters or numbers, given what stands
between them: a separator ends a word, and so does a change from lower case to
upper case. -/
def Joins (a : Char) (gap : List Char) (b : Char) : Prop :=
  (∃ c ∈ gap, c = '-' ∨ c = '_' ∨ isBlank c = true) ∨
    gap = [] ∧ isLowercase a = true ∧ isUppercase b = true

instance (a : Char) (gap : List Char) (b : Char) : Decidable (Joins a gap b) :=
  inferInstanceAs (Decidable (_ ∨ _))

def joint (a : Char) (gap : List Char) (b : Char) : List Char :=
  if Joins a gap b then ['_'] else []

theorem spelling_ne_nil (c : Char) : spelling c ≠ [] := by
  unfold spelling
  split
  · exact lowercase_ne_nil c
  · exact List.cons_ne_nil _ _

theorem underscore_notMem_spelling
    {c : Char} (hc : isAlphanumeric c = true) :
    '_' ∉ spelling c := by
  have hne := ne_of_isAlphanumeric hc not_isAlphanumeric_underscore
  unfold spelling
  split
  · exact fun hmem => hne (underscore_mem_lowercase hmem)
  · exact fun hmem => hne (List.mem_singleton.mp hmem).symm

theorem joint_eq (a : Char) (gap : List Char) (b : Char) :
    joint a gap b =
      (if gap.any Snake.isSeparator then ['_'] else []) ++
        (if (isLowercase a && gap.isEmpty) &&
          isUppercase b then ['_'] else []) := by
  cases gap with
  | nil => simp [joint, Joins]
  | cons c rest => simp [joint, Joins, Snake.isSeparator, or_assoc]

/-! ## Reading -/

namespace Snake

variable {snake : Snake} {c : Char} {cs gap : List Char}

/-- The same reader, with something written earlier. -/
def prepend (earlier : List Char) (snake : Snake) : Snake :=
  ⟨earlier ++ snake.written, snake.afterLowercase⟩

theorem read_of_isAlphanumeric
    (hc : isAlphanumeric c = true) (snake : Snake) :
    snake.read c =
      ⟨snake.written ++ (if snake.afterLowercase &&
        isUppercase c then ['_'] else []) ++
        spelling c, isLowercase c⟩ := by
  cases hupper : isUppercase c with
  | true => simp [read, spelling, hupper, not_isLowercase_of_isUppercase hupper]
  | false => simp [read, spelling, hupper, hc]

theorem read_of_not_isAlphanumeric
    (hc : isAlphanumeric c = false) (snake : Snake) :
    snake.read c =
      ⟨snake.written ++ (if isSeparator c &&
        snake.takesUnderscore then ['_'] else []), false⟩ := by
  have hupper : isUppercase c = false := by
    rw [Bool.eq_false_iff]
    intro hupper
    exact Bool.false_ne_true
      (hc.symm.trans (isAlphanumeric_of_isUppercase hupper))
  cases htakes : isSeparator c && snake.takesUnderscore with
  | true => simp [read, hupper, hc, htakes]
  | false => simp [read, hupper, hc, htakes]

/-- Where no underscore may be written, what is no letter or number leaves no
trace. -/
theorem foldl_read_of_not_takesUnderscore
    (hgap : Wordless gap) (htakes : snake.takesUnderscore = false) :
    gap.foldl read snake =
      ⟨snake.written, snake.afterLowercase && gap.isEmpty⟩ := by
  induction gap generalizing snake with
  | nil => simp
  | cons c rest ih =>
      obtain ⟨hc, hrest⟩ := List.forall_mem_cons.mp hgap
      have hread : snake.read c = ⟨snake.written, false⟩ := by
        simp [read_of_not_isAlphanumeric hc, htakes]
      have hkept : takesUnderscore ⟨snake.written, false⟩ = false := htakes
      rw [List.foldl_cons, hread, ih hrest hkept]
      simp

/-- Of several separators in a row one becomes an underscore. -/
theorem foldl_read_of_takesUnderscore
    (hgap : Wordless gap) (htakes : snake.takesUnderscore = true) :
    gap.foldl read snake =
      ⟨snake.written ++ (if gap.any isSeparator then ['_'] else []),
        snake.afterLowercase && gap.isEmpty⟩ := by
  induction gap generalizing snake with
  | nil => simp
  | cons c rest ih =>
      obtain ⟨hc, hrest⟩ := List.forall_mem_cons.mp hgap
      rw [List.foldl_cons, read_of_not_isAlphanumeric hc, htakes, Bool.and_true]
      cases hseparator : isSeparator c with
      | true =>
          have hended :
              takesUnderscore ⟨snake.written ++ ['_'], false⟩ = false := by
            simp [takesUnderscore]
          rw [if_pos rfl, foldl_read_of_not_takesUnderscore hrest hended]
          simp [hseparator]
      | false =>
          have hkept : takesUnderscore ⟨snake.written ++ [], false⟩ = true := by
            simpa [takesUnderscore] using htakes
          rw [if_neg Bool.false_ne_true, ih hrest hkept]
          simp [hseparator]

theorem takesUnderscore_prepend
    (hwritten : snake.written ≠ []) (earlier : List Char) :
    (snake.prepend earlier).takesUnderscore = snake.takesUnderscore := by
  obtain ⟨initial, last, hlast⟩ :=
    (List.eq_nil_or_concat snake.written).resolve_left hwritten
  have hsome : (earlier ++ (initial ++ [last])).isEmpty = false := by simp
  have hsome' : (initial ++ [last]).isEmpty = false := by simp
  simp [takesUnderscore, prepend, hlast, hsome, hsome']

theorem written_isPrefix
    (cs : List Char) (snake : Snake) :
    snake.written <+: (cs.foldl read snake).written := by
  induction cs generalizing snake with
  | nil => exact List.prefix_rfl
  | cons c rest ih =>
      have hread : snake.written <+: (snake.read c).written := by
        cases hc : isAlphanumeric c with
        | true =>
            simp only [read_of_isAlphanumeric hc, List.append_assoc,
              List.prefix_append]
        | false =>
            simp only [read_of_not_isAlphanumeric hc, List.prefix_append]
      exact hread.trans (ih (snake.read c))

theorem read_prepend
    (hwritten : snake.written ≠ []) (earlier : List Char) (c : Char) :
    (snake.prepend earlier).read c = (snake.read c).prepend earlier := by
  cases hc : isAlphanumeric c with
  | true => simp [read_of_isAlphanumeric hc, prepend]
  | false =>
      rw [read_of_not_isAlphanumeric hc, read_of_not_isAlphanumeric hc,
        takesUnderscore_prepend hwritten]
      simp [prepend]

theorem foldl_read_prepend
    (hwritten : snake.written ≠ []) (earlier cs : List Char) :
    cs.foldl read (snake.prepend earlier) =
      (cs.foldl read snake).prepend earlier := by
  induction cs generalizing snake with
  | nil => rfl
  | cons c rest ih =>
      have hread : (snake.read c).written ≠ [] :=
        (written_isPrefix [c] snake).ne_nil hwritten
      rw [List.foldl_cons, List.foldl_cons, read_prepend hwritten, ih hread]

end Snake

/-! ## What is written for letters and numbers in a row -/

/-- A text, taken apart at its letters and numbers. -/
inductive Lettered : List Char → Prop
  | none {cs : List Char} (hcs : Wordless cs) : Lettered cs
  | last {lead : List Char} {a : Char} {trail : List Char}
      (hlead : Wordless lead)
      (ha : isAlphanumeric a = true) (htrail : Wordless trail) : Lettered
      (lead ++ a :: trail)
  | next {lead : List Char} {a : Char} {gap : List Char} {b : Char}
      {rest : List Char} (hlead : Wordless lead) (ha : isAlphanumeric a = true)
      (hgap : Wordless gap)
      (hb : isAlphanumeric b = true) (hrest : Lettered (b :: rest)) :
      Lettered (lead ++ a :: (gap ++ b :: rest))

theorem wordless_nil : Wordless [] :=
  nofun

theorem wordless_or_exists (cs : List Char) :
    Wordless cs ∨
      ∃ lead a rest, cs = lead ++ a :: rest ∧ Wordless lead ∧
      isAlphanumeric a = true := by
  induction cs with
  | nil => exact .inl wordless_nil
  | cons c cs ih =>
      cases hc : isAlphanumeric c with
      | true => exact .inr ⟨[], c, cs, rfl, wordless_nil, hc⟩
      | false =>
          rcases ih with hcs | ⟨lead, a, rest, rfl, hlead, ha⟩
          · exact .inl (List.forall_mem_cons.mpr ⟨hc, hcs⟩)
          · exact .inr ⟨c :: lead, a, rest, rfl,
              List.forall_mem_cons.mpr ⟨hc, hlead⟩, ha⟩

theorem lettered_cons
    {a : Char} (ha : isAlphanumeric a = true) {lead : List Char}
    (hlead : Wordless lead) (rest : List Char) :
    Lettered (lead ++ a :: rest) := by
  rcases wordless_or_exists rest with htrail | ⟨gap, b, later, rfl, hgap, hb⟩
  · exact .last hlead ha htrail
  · exact .next hlead ha hgap hb (lettered_cons hb wordless_nil later)
termination_by rest.length

theorem lettered (cs : List Char) : Lettered cs := by
  rcases wordless_or_exists cs with hcs | ⟨lead, a, rest, rfl, hlead, ha⟩
  · exact .none hcs
  · exact lettered_cons ha hlead rest

namespace Snake

variable {lead gap : List Char} {a b : Char}

theorem foldl_read_first
    (hlead : Wordless lead) (ha : isAlphanumeric a = true) (rest : List Char) :
    (lead ++ a :: rest).foldl read start =
      rest.foldl read ⟨spelling a, isLowercase a⟩ := by
  rw [List.foldl_append, foldl_read_of_not_takesUnderscore hlead rfl,
    List.foldl_cons, read_of_isAlphanumeric ha]
  rfl

theorem foldl_read_gap
    (ha : isAlphanumeric a = true) (hgap : Wordless gap) :
    gap.foldl read ⟨spelling a, isLowercase a⟩ =
      ⟨spelling a ++ (if gap.any isSeparator then ['_'] else []),
        isLowercase a && gap.isEmpty⟩ := by
  have htakes : takesUnderscore ⟨spelling a, isLowercase a⟩ = true := by
    have hlast : (spelling a).getLast? ≠ some '_' :=
      fun hlast => underscore_notMem_spelling ha (List.mem_of_getLast? hlast)
    simp [takesUnderscore, spelling_ne_nil, hlast]
  exact foldl_read_of_takesUnderscore hgap htakes

/-- From one letter or number to the next, only the two and what stands between
them count. -/
theorem foldl_read_next
    (hlead : Wordless lead) (ha : isAlphanumeric a = true) (hgap : Wordless gap)
    (hb : isAlphanumeric b = true) (rest : List Char) :
    (lead ++ a :: (gap ++ b :: rest)).foldl read start =
      ((b :: rest).foldl read start).prepend (spelling a ++ joint a gap b) := by
  have hwritten : (⟨spelling b, isLowercase b⟩ : Snake).written ≠ [] :=
    spelling_ne_nil b
  have hread : read ⟨spelling a ++ (if gap.any isSeparator then ['_'] else []),
        isLowercase a && gap.isEmpty⟩ b =
      prepend (spelling a ++ joint a gap b) ⟨spelling b, isLowercase b⟩ := by
    simp only [read_of_isAlphanumeric hb, prepend, joint_eq, List.append_assoc]
  have hfresh :
      (b :: rest).foldl read start =
        rest.foldl read ⟨spelling b, isLowercase b⟩ :=
    foldl_read_first wordless_nil hb rest
  rw [foldl_read_first hlead ha, List.foldl_append, foldl_read_gap ha hgap,
    List.foldl_cons, hread, foldl_read_prepend hwritten, hfresh]

end Snake

section

variable {lead gap trail : List Char} {a b : Char}

theorem exists_spelling_cons
    (ha : isAlphanumeric a = true) :
    ∃ first others, spelling a = first :: others ∧ first ≠ '_' := by
  obtain ⟨first, others, hspelling⟩ :=
    List.exists_cons_of_ne_nil (spelling_ne_nil a)
  refine ⟨first, others, hspelling, ?_⟩
  rintro rfl
  exact underscore_notMem_spelling ha (hspelling ▸ List.mem_cons_self)

theorem snakeCaseChars_of_wordless
    {cs : List Char} (hcs : Wordless cs) :
    snakeCaseChars cs = [] := by
  rw [snakeCaseChars, Snake.foldl_read_of_not_takesUnderscore hcs rfl]
  rfl

theorem snakeCaseChars_last
    (hlead : Wordless lead) (ha : isAlphanumeric a = true)
    (htrail : Wordless trail) :
    snakeCaseChars (lead ++ a :: trail) = spelling a := by
  rw [snakeCaseChars, Snake.foldl_read_first hlead ha,
    Snake.foldl_read_gap ha htrail]
  apply strip_append_dropped (spelling_ne_nil a)
  · intro c hc
    exact decide_eq_false fun hsame =>
      underscore_notMem_spelling ha (hsame ▸ hc)
  · intro c hc
    split at hc
    · exact decide_eq_true (List.mem_singleton.mp hc)
    · contradiction

theorem snakeCaseChars_next
    (hlead : Wordless lead) (ha : isAlphanumeric a = true) (hgap : Wordless gap)
    (hb : isAlphanumeric b = true) (rest : List Char) :
    snakeCaseChars (lead ++ a :: (gap ++ b :: rest)) =
      spelling a ++ joint a gap b ++ snakeCaseChars (b :: rest) := by
  obtain ⟨first, others, hfirst, hne⟩ := exists_spelling_cons ha
  -- What is read from `b` on starts as `b` is spelt, so nothing before it is
  -- stripped.
  obtain ⟨next, later, hlater, hnext⟩ : ∃ next later,
      ((b :: rest).foldl Snake.read Snake.start).written = next :: later ∧
      next ≠ '_' := by
    obtain ⟨next, others, hspelling, hnext⟩ := exists_spelling_cons hb
    have hread : (b :: rest).foldl Snake.read Snake.start =
        rest.foldl Snake.read ⟨spelling b, isLowercase b⟩ :=
      Snake.foldl_read_first wordless_nil hb rest
    obtain ⟨later, hlater⟩ :=
      Snake.written_isPrefix rest ⟨spelling b, isLowercase b⟩
    refine ⟨next, others ++ later, ?_, hnext⟩
    rw [hread, ← hlater, hspelling, List.cons_append]
  rw [snakeCaseChars, Snake.foldl_read_next hlead ha hgap hb, snakeCaseChars,
    Snake.prepend, hfirst, hlater]
  exact strip_append (decide_eq_false hne) (decide_eq_false hnext)
    (others ++ joint a gap b) later

theorem snakeCaseChars_singleton (ha : isAlphanumeric a = true) :
    snakeCaseChars [a] = spelling a :=
  snakeCaseChars_last wordless_nil ha wordless_nil

/-- What is written for a text up to a letter or number, and from the next one
on, does not depend on the rest of the text. -/
theorem snakeCaseChars_append
    (before : List Char) (ha : isAlphanumeric a = true) (hgap : Wordless gap)
    (hb : isAlphanumeric b = true) (rest : List Char) :
    snakeCaseChars (before ++ a :: (gap ++ b :: rest)) =
      snakeCaseChars (before ++ [a]) ++ joint a gap b ++
        snakeCaseChars (b :: rest) := by
  have hfirst : snakeCaseChars (a :: (gap ++ b :: rest)) =
      spelling a ++ joint a gap b ++ snakeCaseChars (b :: rest) :=
    snakeCaseChars_next wordless_nil ha hgap hb rest
  induction lettered before with
  | none hbefore =>
      rw [snakeCaseChars_last hbefore ha wordless_nil,
        snakeCaseChars_next hbefore ha hgap hb]
  | last hlead hc htrail =>
      simp only [List.append_assoc, List.cons_append]
      rw [snakeCaseChars_next hlead hc htrail ha,
        snakeCaseChars_next hlead hc htrail ha, hfirst,
          snakeCaseChars_singleton ha]
      simp only [List.append_assoc]
  | next hlead hc hbetween hd _ ih =>
      simp only [List.append_assoc, List.cons_append] at ih ⊢
      rw [snakeCaseChars_next hlead hc hbetween hd,
        snakeCaseChars_next hlead hc hbetween hd, ih]
      simp only [List.append_assoc]

theorem exists_append_spelling
    (before : List Char) (ha : isAlphanumeric a = true) :
    ∃ earlier, snakeCaseChars (before ++ [a]) = earlier ++ spelling a := by
  induction lettered before with
  | none hbefore => exact ⟨[], snakeCaseChars_last hbefore ha wordless_nil⟩
  | @last lead c trail hlead hc htrail =>
      refine ⟨spelling c ++ joint c trail a, ?_⟩
      simp only [List.append_assoc, List.cons_append]
      rw [snakeCaseChars_next hlead hc htrail ha, snakeCaseChars_singleton ha,
        List.append_assoc]
  | @next lead c between d rest hlead hc hbetween hd _ ih =>
      obtain ⟨earlier, hearlier⟩ := ih
      refine ⟨spelling c ++ joint c between d ++ earlier, ?_⟩
      simp only [List.append_assoc, List.cons_append] at hearlier ⊢
      rw [snakeCaseChars_next hlead hc hbetween hd, hearlier, List.append_assoc]

theorem exists_spelling_append
    (hb : isAlphanumeric b = true) (rest : List Char) :
    ∃ later, snakeCaseChars (b :: rest) = spelling b ++ later := by
  rcases wordless_or_exists rest with hrest | ⟨between, c, later, rfl, hbetween,
    hc⟩
  · exact ⟨[], (snakeCaseChars_last wordless_nil hb hrest).trans
      (List.append_nil _).symm⟩
  · exact ⟨_, (snakeCaseChars_next wordless_nil hb hbetween hc later).trans
      (List.append_assoc _ _ _)⟩

/-! ## The letters and numbers that are written -/

theorem filter_of_wordless (hgap : Wordless gap) :
    gap.filter isAlphanumeric = [] := by
  rw [List.filter_eq_nil_iff]
  intro c hc
  rw [hgap c hc]
  exact Bool.false_ne_true

theorem filter_spelling
    (ha : isAlphanumeric a = true) :
    (spelling a).filter (· ≠ '_') = spelling a := by
  rw [List.filter_eq_self]
  intro c hc
  exact decide_eq_true (ne_of_mem_of_not_mem hc (underscore_notMem_spelling ha))

theorem filter_joint (a : Char) (gap : List Char) (b : Char) :
    (joint a gap b).filter (· ≠ '_') = [] := by
  unfold joint
  split <;> rfl

/-- Nothing of a text is lost, repeated or moved, but for what is no letter or
number. -/
theorem filter_snakeCaseChars (cs : List Char) :
    (snakeCaseChars cs).filter (· ≠ '_') =
      (cs.filter isAlphanumeric).flatMap spelling := by
  induction lettered cs with
  | none hcs =>
      rw [snakeCaseChars_of_wordless hcs, filter_of_wordless hcs]
      rfl
  | last hlead ha htrail =>
      rw [snakeCaseChars_last hlead ha htrail, filter_spelling ha,
        List.filter_append, filter_of_wordless hlead,
          List.filter_cons_of_pos ha, filter_of_wordless htrail,
        List.nil_append, List.flatMap_singleton]
  | next hlead ha hgap hb _ ih =>
      rw [snakeCaseChars_next hlead ha hgap hb, List.filter_append,
        List.filter_append, filter_spelling ha, filter_joint, ih,
          List.append_nil, List.filter_append,
        filter_of_wordless hlead, List.nil_append, List.filter_cons_of_pos ha,
          List.filter_append,
        filter_of_wordless hgap, List.nil_append, List.flatMap_cons]

theorem snakeCaseChars_eq_nil_iff (cs : List Char) :
    snakeCaseChars cs = [] ↔ Wordless cs := by
  constructor
  · intro hempty c hc
    have hletters := filter_snakeCaseChars cs
    rw [hempty, List.filter_nil, eq_comm, List.flatMap_eq_nil_iff] at hletters
    rw [Bool.eq_false_iff]
    intro hletter
    exact spelling_ne_nil c (hletters c (List.mem_filter.mpr ⟨hc, hletter⟩))
  · exact snakeCaseChars_of_wordless

end

/-! ## ASCII text -/

/-- Words of lower-case letters and digits with single underscores between them:
`[a-z0-9]+(_[a-z0-9]+)*`. -/
inductive IsSnakeCased : List Char → Prop
  | last {c : Char} (hc : (c.isLower || c.isDigit) = true) : IsSnakeCased [c]
  | letter {c : Char} {rest : List Char} (hc : (c.isLower || c.isDigit) = true)
      (hrest : IsSnakeCased rest) : IsSnakeCased (c :: rest)
  | underscore {c : Char} {rest : List Char}
      (hc : (c.isLower || c.isDigit) = true)
      (hrest : IsSnakeCased rest) : IsSnakeCased (c :: '_' :: rest)

namespace IsSnakeCased

variable {word rest cs : List Char}

theorem of_word
    (hne : word ≠ []) (hword : ∀ c ∈ word, (c.isLower || c.isDigit) = true) :
    IsSnakeCased word := by
  induction word with
  | nil => contradiction
  | cons c others ih =>
      obtain ⟨hc, hothers⟩ := List.forall_mem_cons.mp hword
      cases others with
      | nil => exact .last hc
      | cons d others => exact .letter hc (ih (List.cons_ne_nil _ _) hothers)

theorem word_append
    (hword : ∀ c ∈ word, (c.isLower || c.isDigit) = true)
    (hrest : IsSnakeCased rest) :
    IsSnakeCased (word ++ rest) := by
  induction word with
  | nil => exact hrest
  | cons c others ih =>
      obtain ⟨hc, hothers⟩ := List.forall_mem_cons.mp hword
      exact .letter hc (ih hothers)

theorem word_underscore
    (hne : word ≠ []) (hword : ∀ c ∈ word, (c.isLower || c.isDigit) = true)
    (hrest : IsSnakeCased rest) :
    IsSnakeCased (word ++ '_' :: rest) := by
  obtain ⟨initial, last, rfl⟩ := (List.eq_nil_or_concat' word).resolve_left hne
  rw [List.append_assoc]
  exact word_append (fun c hc => hword c (List.mem_append_left _ hc))
    (.underscore (hword last (by simp)) hrest)

theorem exists_cons
    (hcs : IsSnakeCased cs) :
    ∃ c rest, cs = c :: rest ∧ (c.isLower || c.isDigit) = true := by
  cases hcs with
  | last hc => exact ⟨_, _, rfl, hc⟩
  | letter hc => exact ⟨_, _, rfl, hc⟩
  | underscore hc => exact ⟨_, _, rfl, hc⟩

end IsSnakeCased

theorem spelling_of_ascii
    {c d : Char} (hascii : c.toNat < 0x80) (hc : isAlphanumeric c = true)
    (hd : d ∈ spelling c) : (d.isLower || d.isDigit) = true := by
  have hall : ∀ c : Char, c.toNat < 0x80 →
      inRuns (alphanumericRuns.take 3) c = true →
      ((spelling c).all fun d => d.isLower || d.isDigit) = true :=
    forall_ascii (by decide +kernel)
  rw [isAlphanumeric_of_ascii hascii] at hc
  exact List.all_eq_true.mp (hall c hascii hc) d hd

theorem spelt_as_itself
    {c : Char} (hc : (c.isLower || c.isDigit) = true) :
    isAlphanumeric c = true ∧ isUppercase c = false := by
  have halphanum : c.isAlphanum = true := by
    change (c.isUpper || c.isLower || c.isDigit) = true
    rw [Bool.or_assoc, hc, Bool.or_true]
  have hall : ∀ c : Char, c.toNat < 0x80 → (c.isLower || c.isDigit) = true →
      isAlphanumeric c = true ∧ isUppercase c = false :=
    forall_ascii (by decide +kernel)
  exact hall c (toNat_of_isAlphanum halphanum) hc

theorem isSnakeCased_snakeCaseChars
    {cs : List Char} (hascii : ∀ c ∈ cs, c.toNat < 0x80) :
    snakeCaseChars cs = [] ∨ IsSnakeCased (snakeCaseChars cs) := by
  induction lettered cs with
  | none hcs => exact .inl (snakeCaseChars_of_wordless hcs)
  | @last lead a trail hlead ha htrail =>
      have hword : ∀ d ∈ spelling a, (d.isLower || d.isDigit) = true :=
        fun d hd => spelling_of_ascii (hascii a (by simp)) ha hd
      rw [snakeCaseChars_last hlead ha htrail]
      exact .inr (.of_word (spelling_ne_nil a) hword)
  | @next lead a gap b rest hlead ha hgap hb _ ih =>
      have hword : ∀ d ∈ spelling a, (d.isLower || d.isDigit) = true :=
        fun d hd => spelling_of_ascii (hascii a (by simp)) ha hd
      have hsome : snakeCaseChars (b :: rest) ≠ [] := by
        rw [ne_eq, snakeCaseChars_eq_nil_iff]
        intro hwordless
        exact Bool.false_ne_true
          ((hwordless b List.mem_cons_self).symm.trans hb)
      have hrest : IsSnakeCased (snakeCaseChars (b :: rest)) :=
        (ih fun c hc => hascii c (by simp [List.mem_cons.mp hc])).resolve_left
        hsome
      rw [snakeCaseChars_next hlead ha hgap hb]
      unfold joint
      split
      · rw [List.append_assoc]
        exact .inr (.word_underscore (spelling_ne_nil a) hword hrest)
      · rw [List.append_nil]
        exact .inr (.word_append hword hrest)

/-- Words joined by underscores stay as they are. -/
theorem IsSnakeCased.snakeCaseChars_eq
    {cs : List Char} (hcs : IsSnakeCased cs) :
    snakeCaseChars cs = cs := by
  have hspelling {c : Char} (hc : (c.isLower || c.isDigit) = true) :
      spelling c = [c] := by
    rw [spelling, (spelt_as_itself hc).2, if_neg Bool.false_ne_true]
  induction hcs with
  | last hc =>
      rw [snakeCaseChars_singleton (spelt_as_itself hc).1, hspelling hc]
  | @letter c rest hc hrest ih =>
      obtain ⟨d, others, rfl, hd⟩ := hrest.exists_cons
      have hjoint : joint c [] d = [] := by
        simp [joint, Joins, (spelt_as_itself hd).2]
      have hnext :=
        snakeCaseChars_next wordless_nil (spelt_as_itself hc).1 wordless_nil
        (spelt_as_itself hd).1 others
      rw [hspelling hc, hjoint, ih] at hnext
      exact hnext
  | @underscore c rest hc hrest ih =>
      obtain ⟨d, others, rfl, hd⟩ := hrest.exists_cons
      have hjoint : joint c ['_'] d = ['_'] := by
        simp [joint, Joins]
      have hgap : Wordless ['_'] := by
        intro c hc
        rw [List.mem_singleton.mp hc]
        exact not_isAlphanumeric_underscore
      have hnext := snakeCaseChars_next wordless_nil (spelt_as_itself hc).1 hgap
        (spelt_as_itself hd).1 others
      rw [hspelling hc, hjoint, ih] at hnext
      exact hnext

/-! ## Texts -/

@[simp] theorem toList_snakeCase (s : String) :
    (snakeCase s).toList = snakeCaseChars s.toList :=
  String.toList_ofList

/-- How a text is brought to snake case, told by its letters and numbers. -/
structure SnakeCaseLaw (s : String) : Prop where
  letters :
    (snakeCase s).toList.filter (· ≠ '_') =
      (s.toList.filter isAlphanumeric).flatMap spelling
  between :
    ∀ before a gap b rest, s.toList = before ++ a :: (gap ++ b :: rest) →
      isAlphanumeric a = true → Wordless gap → isAlphanumeric b = true →
      ∃ earlier later,
        (snakeCase s).toList =
          earlier ++ spelling a ++ (if Joins a gap b then ['_'] else []) ++
            spelling b ++ later ∧
        earlier.filter (· ≠ '_') =
          (before.filter isAlphanumeric).flatMap spelling ∧
        later.filter (· ≠ '_') = (rest.filter isAlphanumeric).flatMap spelling
  first : (snakeCase s).toList.head? ≠ some '_'
  last : (snakeCase s).toList.getLast? ≠ some '_'
  empty_iff : snakeCase s = "" ↔ Wordless s.toList
  ascii :
    (∀ c ∈ s.toList, c.toNat < 0x80) →
      (snakeCase s = "" ∨ IsSnakeCased (snakeCase s).toList) ∧
        snakeCase (snakeCase s) = snakeCase s

theorem snakeCaseLaw (s : String) : SnakeCaseLaw s := by
  constructor
  case letters =>
    rw [toList_snakeCase]
    exact filter_snakeCaseChars s.toList
  case between =>
    intro before a gap b rest hsplit ha hgap hb
    obtain ⟨earlier, hearlier⟩ := exists_append_spelling before ha
    obtain ⟨later, hlater⟩ := exists_spelling_append hb rest
    refine ⟨earlier, later, ?_, ?_, ?_⟩
    · rw [toList_snakeCase, hsplit, snakeCaseChars_append before ha hgap hb,
        hearlier, hlater, ← List.append_assoc]
      rfl
    · have hletters := filter_snakeCaseChars (before ++ [a])
      rw [hearlier, List.filter_append, filter_spelling ha, List.filter_append,
        List.filter_cons_of_pos ha, List.filter_nil, List.flatMap_append,
        List.flatMap_singleton] at hletters
      exact List.append_cancel_right hletters
    · have hletters := filter_snakeCaseChars (b :: rest)
      rw [hlater, List.filter_append, filter_spelling hb,
        List.filter_cons_of_pos hb, List.flatMap_cons] at hletters
      exact List.append_cancel_left hletters
  case first =>
    rw [toList_snakeCase]
    intro hfirst
    obtain ⟨rest, hrest⟩ := List.head?_eq_some_iff.mp hfirst
    exact absurd (first_of_strip hrest) (by decide)
  case last =>
    rw [toList_snakeCase]
    intro hlast
    exact absurd (last_of_strip hlast) (by decide)
  case empty_iff =>
    rw [← String.toList_eq_nil_iff, toList_snakeCase]
    exact snakeCaseChars_eq_nil_iff s.toList
  case ascii =>
    intro hascii
    have hcased := isSnakeCased_snakeCaseChars hascii
    rw [← String.toList_eq_nil_iff, toList_snakeCase]
    refine ⟨hcased, ?_⟩
    rw [← String.toList_inj, toList_snakeCase, toList_snakeCase]
    rcases hcased with hempty | hwords
    · rw [hempty]
      rfl
    · exact hwords.snakeCaseChars_eq

end FamilyOrders.Text
