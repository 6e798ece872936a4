import FamilyOrders.Proofs.Urls.Authorities

/-!
# Web URLs read back

The text of a URL that has been read is read as that URL: its scheme is a scheme
in lower case, its authority ends at the first slash, and the segments of its
path hold nothing to be escaped or resolved again.
-/

namespace FamilyOrders.Url

open FamilyOrders.Text

/-! ### Schemes -/

/-- A scheme in lower case. -/
structure IsScheme (scheme : List Char) : Prop where
  letter : ∃ first ∈ scheme.head?, first.isAlpha = true
  chars : ∀ c ∈ scheme, isSchemeChar c = true ∧ c.toLower = c

theorem toNat_of_isSchemeChar
    {c : Char} (hc : isSchemeChar c = true) :
    c.toNat < 0x80 := by
  simp only [isSchemeChar, Bool.or_eq_true, decide_eq_true_eq] at hc
  rcases hc with ((halphanum | rfl) | rfl) | rfl
  · exact toNat_of_isAlphanum halphanum
  · decide
  · decide
  · decide

theorem toLower_of_isSchemeChar :
    ∀ c : Char, c.toNat < 0x80 → isSchemeChar c = true →
      (isSchemeChar c.toLower = true ∧ c.toLower.toLower = c.toLower) ∧
        (c.isAlpha = true → c.toLower.isAlpha = true) :=
  forall_ascii (by decide)

theorem isScheme_of_splitScheme
    {cs scheme rest : List Char}
    (hsplit : splitScheme cs = some (scheme, rest)) : IsScheme scheme := by
  have hall : ∀ c ∈ cs.takeWhile isSchemeChar, isSchemeChar c = true :=
    fun c hc => List.mem_takeWhile_imp hc
  unfold splitScheme at hsplit
  dsimp only at hsplit
  generalize cs.takeWhile isSchemeChar = name at hsplit hall
  split at hsplit
  · rename_i first more _ _
    split at hsplit
    · rename_i hletter
      obtain ⟨rfl, -⟩ := Prod.mk.inj (Option.some.inj hsplit)
      have hlower := fun c hc =>
        toLower_of_isSchemeChar c (toNat_of_isSchemeChar (hall c hc))
          (hall c hc)
      constructor
      case letter =>
        exact ⟨first.toLower, rfl, (hlower first List.mem_cons_self).2 hletter⟩
      case chars =>
        intro c hc
        obtain ⟨source, hsource, rfl⟩ := List.mem_map.mp hc
        exact (hlower source hsource).1
    · cases hsplit
  · cases hsplit

theorem IsScheme.splitScheme
    {scheme : List Char} (hscheme : IsScheme scheme) (rest : List Char) :
    Url.splitScheme (scheme ++ ':' :: rest) = some (scheme, rest) := by
  obtain ⟨first, hfirst, hletter⟩ := hscheme.letter
  have hname : (scheme ++ ':' :: rest).takeWhile isSchemeChar = scheme := by
    rw [List.takeWhile_append_of_pos fun c hc => (hscheme.chars c hc).1,
      List.takeWhile_cons_of_neg (by decide), List.append_nil]
  have hlower : scheme.map Char.toLower = scheme :=
    (List.map_congr_left fun c hc => (hscheme.chars c hc).2).trans
    (List.map_id scheme)
  obtain ⟨more, rfl⟩ := List.head?_eq_some_iff.mp hfirst
  rw [Url.splitScheme, hname, List.drop_left]
  simp only [if_pos hletter, hlower]

theorem IsScheme.not_isControlOrSpace
    {scheme : List Char} {c : Char} (hscheme : IsScheme scheme)
    (hc : c ∈ scheme) : isControlOrSpace c = false := by
  have hall : ∀ c : Char, c.toNat < 0x80 → isSchemeChar c = true →
      isControlOrSpace c = false :=
    forall_ascii (by decide)
  have hchar := (hscheme.chars c hc).1
  exact hall c (toNat_of_isSchemeChar hchar) hchar

/-! ### Places on the web -/

/-- A URL with a host and a path, and with neither query nor fragment. -/
def ofPlace (scheme : List Char) (authority : Authority)
    (names : List (List Char)) : Url :=
  { scheme
    authority := some authority
    path := .segments names
    query := none
    fragment := none }

/-- A scheme for the web, and an authority and segments as they are once they
have been read. -/
structure IsPlace (domains : DomainRules) (scheme : List Char)
    (authority : Authority) (names : List (List Char)) : Prop where
  isScheme : IsScheme scheme
  isWeb : isWeb scheme = true
  isAuthority : IsAuthority domains scheme authority
  names_ne_nil : names ≠ []
  segments : ∀ name ∈ names, IsSegment name

theorem ne_fileScheme_of_isWeb
    {scheme : List Char} (hweb : isWeb scheme = true) :
    scheme ≠ fileScheme := by
  rintro rfl
  revert hweb
  decide

theorem chars_ofPlace (scheme : List Char) (authority : Authority)
    (names : List (List Char)) :
    (ofPlace scheme authority names).chars =
      scheme ++ ':' :: '/' :: '/' ::
        (authority.chars ++ names.flatMap ('/' :: ·)) := by
  simp [chars, ofPlace, authorityChars, Path.chars]

section Places

variable {domains : DomainRules} {scheme cs : List Char}
variable {authority : Authority} {names : List (List Char)}

theorem scheme_of_readAfterSlashes
    {query fragment : Option (List Char)} {url : Url}
    (hread : readAfterSlashes domains scheme cs query fragment = .ok url) :
    url.scheme = scheme := by
  obtain ⟨authority, -, hread⟩ := bind_eq_ok_iff.mp hread
  obtain rfl := Except.ok.inj hread
  rfl

theorem scheme_of_readFile
    {query fragment : Option (List Char)} {url : Url}
    (hread : readFile domains cs query fragment = .ok url) :
    url.scheme = fileScheme := by
  unfold readFile at hread
  split at hread
  · split at hread
    · dsimp only at hread
      split at hread
      · obtain rfl := Except.ok.inj hread
        rfl
      split at hread
      · obtain rfl := Except.ok.inj hread
        rfl
      · obtain ⟨host, -, hread⟩ := bind_eq_ok_iff.mp hread
        obtain rfl := Except.ok.inj hread
        rfl
    · obtain rfl := Except.ok.inj hread
      rfl
  · obtain rfl := Except.ok.inj hread
    rfl

theorem scheme_of_readAfterScheme
    {url : Url} (hread : readAfterScheme domains scheme cs = .ok url) :
    url.scheme = scheme := by
  unfold readAfterScheme at hread
  rcases splitTail cs with ⟨body, query, fragment⟩
  dsimp only at hread
  split at hread
  · rename_i hfile
    rw [hfile]
    exact scheme_of_readFile hread
  split at hread
  · exact scheme_of_readAfterSlashes hread
  split at hread
  · exact scheme_of_readAfterSlashes hread
  · obtain rfl := Except.ok.inj hread
    rfl
  · obtain rfl := Except.ok.inj hread
    rfl

theorem isPlace_of_readAfterSlashes
    {body : List Char} {query fragment : Option (List Char)} {url : Url}
    (hsound : domains.IsSound) (hscheme : IsScheme scheme)
    (hweb : isWeb scheme = true)
    (hread : readAfterSlashes domains scheme body query fragment = .ok url) :
    ∃ authority names, IsPlace domains scheme authority names ∧
      url = withTail scheme (some authority)
        (.segments names) query fragment := by
  have hfile := ne_fileScheme_of_isWeb hweb
  have hlenient : isLenient scheme = true := by simp [isLenient, hweb]
  obtain ⟨authority, hauthority, hread⟩ := bind_eq_ok_iff.mp hread
  obtain rfl := Except.ok.inj hread
  generalize body.drop (body.takeWhile fun c => !isSlash scheme c).length =
    pathText
  have hnames : (if pathText.isEmpty && !isWeb scheme then []
      else readSegments scheme (dropSlash scheme pathText)) =
        resolveSegments scheme []
          (splitSegments scheme (dropSlash scheme pathText)) := by
    simp [hweb, readSegments, hfile]
  rw [hnames]
  refine ⟨authority, _, ?_, rfl⟩
  constructor
  case isScheme => exact hscheme
  case isWeb => exact hweb
  case isAuthority => exact isAuthority_of_readAuthority hsound hweb hauthority
  case names_ne_nil =>
    exact resolveSegments_ne_nil (.inr (splitSegments_ne_nil _ _))
  case segments =>
    apply isSegment_of_mem_resolveSegments hfile hlenient
    · exact fun _ hnone => nomatch hnone
    · exact fun segment hsegment c hc =>
        not_isSlash_of_mem_splitSegments hsegment hc

theorem IsAuthorityChar.not_isSlash
    {c : Char} (hc : IsAuthorityChar c) (scheme : List Char) :
    isSlash scheme c = false := by
  have hmem := hc.2.2
  simp only [List.mem_cons, not_or] at hmem
  simp [isSlash, hmem.2.1, hmem.2.2.2.1]

theorem IsPlace.readSegments_names
    {first : List Char} {more : List (List Char)}
    (hplace : IsPlace domains scheme authority (first :: more)) :
    readSegments scheme (first ++ more.flatMap ('/' :: ·)) = first :: more := by
  have hfile := ne_fileScheme_of_isWeb hplace.isWeb
  have hkeep : ∀ segment ∈ first :: more, ∀ isFirst,
      keepSegment scheme isFirst segment = segment := by
    intro segment hsegment isFirst
    apply keepSegment_of_isPlain (hplace.segments segment hsegment).plain
    intro _ hscheme
    exact absurd hscheme hfile
  have hkept : ∀ segment ∈ first :: more,
      isSingleDot segment = false ∧ isDoubleDot segment = false ∧
        keepSegment scheme false segment = segment := by
    intro segment hsegment
    have hread := hplace.segments segment hsegment
    exact ⟨hread.single, hread.double, hkeep segment hsegment false⟩
  have hfirst : ([] : List (List Char)) = [] →
      ∀ name ∈ (first :: more).head?, keepSegment scheme true name = name :=
    fun _ name hname => hkeep name (List.mem_of_head? hname) true
  have hplain :=
    fun segment hsegment => (hplace.segments segment hsegment).plain
  rw [readSegments, splitSegments_joined hplain,
    resolveSegments_of_kept hkept hfirst, if_neg hfile]
  rfl

theorem IsPlace.readAfterSlashes_chars
    (hplace : IsPlace domains scheme authority names) :
    readAfterSlashes domains scheme
        (authority.chars ++ names.flatMap ('/' :: ·)) none none =
      .ok (ofPlace scheme authority names) := by
  obtain ⟨first, more, rfl⟩ := List.exists_cons_of_ne_nil hplace.names_ne_nil
  have hslash : isSlash scheme '/' = true := by simp [isSlash]
  have hauthority :
      (authority.chars ++ (first :: more).flatMap ('/' :: ·)).takeWhile
      (fun c => !isSlash scheme c) = authority.chars := by
    have hall : ∀ c ∈ authority.chars, (!isSlash scheme c) = true := by
      intro c hc
      rw [(hplace.isAuthority.mem_chars hc).not_isSlash scheme]
      rfl
    rw [List.takeWhile_append_of_pos hall, List.flatMap_cons, List.cons_append,
      List.takeWhile_cons_of_neg (by simp [hslash]), List.append_nil]
  have hpath : dropSlash scheme ((first :: more).flatMap ('/' :: ·)) =
      first ++ more.flatMap ('/' :: ·) := by
    rw [List.flatMap_cons, List.cons_append, dropSlash, if_pos hslash]
  simp only [readAfterSlashes, hauthority, List.drop_left, hpath,
    hplace.readSegments_names, hplace.isAuthority.read_chars hplace.isWeb,
      hplace.isWeb, Bool.not_true, Bool.and_false,
    Bool.false_eq_true, if_false]
  rfl

theorem IsPlace.mem_body
    {c : Char} (hplace : IsPlace domains scheme authority names)
    (hc : c ∈ authority.chars ++ names.flatMap ('/' :: ·)) :
    isControlOrSpace c = false ∧ c ≠ '#' ∧ c ≠ '?' := by
  rcases List.mem_append.mp hc with hauthority | hpath
  · obtain ⟨hlarge, -, hmarks⟩ := hplace.isAuthority.mem_chars hauthority
    simp only [List.mem_cons, not_or] at hmarks
    exact ⟨by simpa [isControlOrSpace] using hlarge, hmarks.1, hmarks.2.2.1⟩
  · obtain ⟨segment, hsegment, hmem⟩ := List.mem_flatMap.mp hpath
    rcases List.mem_cons.mp hmem with rfl | hsegmentChar
    · decide
    · have hplain := (hplace.segments segment hsegment).plain c hsegmentChar
      exact ⟨hplain.not_isControlOrSpace,
        hplain.ne_of_mem_pathEscapes (by decide),
          hplain.ne_of_mem_pathEscapes (by decide)⟩

/-- The text of a place is read as that place. -/
theorem IsPlace.parse_text
    (hplace : IsPlace domains scheme authority names) :
    parse domains (ofPlace scheme authority names).text =
      .ok (ofPlace scheme authority names) := by
  have hbody := fun c hc => hplace.mem_body (c := c) hc
  generalize hwhole :
    authority.chars ++ names.flatMap ('/' :: ·) = body at hbody
  have hread : body.dropWhile (isSlash scheme) = body := by
    obtain ⟨c, rest, hauthority⟩ :=
      List.exists_cons_of_ne_nil hplace.isAuthority.chars_ne_nil
    have hc :=
      (hplace.isAuthority.mem_chars
        (hauthority ▸ List.mem_cons_self)).not_isSlash scheme
    rw [← hwhole, hauthority, List.cons_append,
      List.dropWhile_cons_of_neg (by simp [hc])]
  have htail :
      splitTail ('/' :: '/' :: body) = ('/' :: '/' :: body, none, none) := by
    apply splitTail_of_plain
    · simpa using fun hmem => (hbody '#' hmem).2.1 rfl
    · simpa using fun hmem => (hbody '?' hmem).2.2 rfl
  have hvisible : ∀ c ∈ scheme ++ ':' :: '/' :: '/' :: body,
      isControlOrSpace c = false := by
    intro c hc
    simp only [List.mem_append, List.mem_cons] at hc
    rcases hc with hscheme | rfl | rfl | rfl | hmem
    · exact hplace.isScheme.not_isControlOrSpace hscheme
    · rfl
    · rfl
    · rfl
    · exact (hbody c hmem).1
  have hslash : isSlash scheme '/' = true := by simp [isSlash]
  have hfile := ne_fileScheme_of_isWeb hplace.isWeb
  rw [parse, text, String.toList_ofList, chars_ofPlace, hwhole,
    read_of_visible hvisible (hplace.isScheme.splitScheme _), readAfterScheme,
      htail]
  simp only [if_neg hfile, hplace.isWeb, if_true, List.dropWhile_cons, hslash,
    hread]
  rw [← hwhole]
  exact hplace.readAfterSlashes_chars

end Places

/-! ### Texts -/

section Texts

variable {domains : DomainRules} {s : String} {url : Url}

theorem splitScheme_of_parse
    (hparse : parse domains s = .ok url) :
    ∃ cs rest, splitScheme cs = some (url.scheme, rest) ∧
      readAfterScheme domains url.scheme rest = .ok url := by
  unfold parse read at hparse
  dsimp only at hparse
  split at hparse
  · rename_i scheme rest hsplit
    obtain rfl := scheme_of_readAfterScheme hparse
    exact ⟨_, rest, hsplit, hparse⟩
  · cases hparse

theorem isScheme_of_parse
    (hparse : parse domains s = .ok url) :
    IsScheme url.scheme := by
  obtain ⟨cs, rest, hsplit, -⟩ := splitScheme_of_parse hparse
  exact isScheme_of_splitScheme hsplit

/-- A web URL without query and fragment that has been read is a place. -/
theorem isPlace_of_parse
    (hsound : domains.IsSound) (hparse : parse domains s = .ok url)
    (hweb : isWeb url.scheme = true)
    (hquery : url.query = none) (hfragment : url.fragment = none) :
    ∃ authority names, IsPlace domains url.scheme authority names ∧
      url = ofPlace url.scheme authority names := by
  obtain ⟨cs, rest, -, hread⟩ := splitScheme_of_parse hparse
  simp only [readAfterScheme, if_neg (ne_fileScheme_of_isWeb hweb), hweb,
    if_true] at hread
  obtain ⟨authority, names, hplace, hurl⟩ :=
    isPlace_of_readAfterSlashes hsound (isScheme_of_parse hparse) hweb hread
  have hnoQuery := congrArg Url.query hurl
  have hnoFragment := congrArg Url.fragment hurl
  rw [hquery] at hnoQuery
  rw [hfragment] at hnoFragment
  rw [Option.map_eq_none_iff.mp hnoQuery.symm,
    Option.map_eq_none_iff.mp hnoFragment.symm] at hurl
  exact ⟨authority, names, hplace, hurl⟩

/-- What follows the scheme does not change it. -/
theorem scheme_of_parse
    {scheme rest : List Char} (hscheme : IsScheme scheme)
    (hlast : ∀ c ∈ rest.getLast?, isControlOrSpace c = false)
    (hparse : parse domains (String.ofList (scheme ++ ':' :: rest)) = .ok url) :
    url.scheme = scheme := by
  have hstrip :
      strip isControlOrSpace (scheme ++ ':' :: rest) =
        scheme ++ ':' :: rest := by
    apply strip_of_ends
    · intro c hc
      obtain ⟨first, hfirst, -⟩ := hscheme.letter
      rw [List.head?_append, hfirst] at hc
      obtain rfl := Option.some.inj hc
      exact hscheme.not_isControlOrSpace (List.mem_of_head? hfirst)
    · intro c hc
      rw [List.getLast?_append, List.getLast?_cons] at hc
      obtain rfl := Option.some.inj hc
      cases hend : rest.getLast? with
      | none => rfl
      | some last => exact hlast last hend
  have hfilter : (scheme ++ ':' :: rest).filter (fun c => !isTabOrNewline c) =
      scheme ++ ':' :: rest.filter (fun c => !isTabOrNewline c) := by
    have hkept : scheme.filter (fun c => !isTabOrNewline c) = scheme := by
      rw [List.filter_eq_self]
      intro c hc
      rw [Bool.not_eq_true', ← Bool.not_eq_true]
      intro htab
      have hcontrol := isControlOrSpace_of_isTabOrNewline htab
      rw [hscheme.not_isControlOrSpace hc] at hcontrol
      contradiction
    rw [List.filter_append, hkept, List.filter_cons_of_pos (by decide)]
  simp only [parse, read, String.toList_ofList, hstrip, hfilter,
    hscheme.splitScheme] at hparse
  exact scheme_of_readAfterScheme hparse

end Texts

end FamilyOrders.Url
