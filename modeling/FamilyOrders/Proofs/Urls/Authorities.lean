import FamilyOrders.Proofs.Actions
import FamilyOrders.Proofs.Urls.Addresses
import FamilyOrders.Proofs.Urls.Segments

/-!
# Authorities read back

The credentials, the host and the port of a web URL are found again in their
text.  The last `@` ends the credentials, since no host holds one, and the first
colon outside brackets ends the host.
-/

namespace FamilyOrders.Url

open FamilyOrders.Text

/-! ### Characters -/

/-- A character that ends no authority. -/
def IsAuthorityChar (c : Char) : Prop :=
  0x20 < c.toNat ∧ c.toNat < 0x7F ∧ c ∉ ['#', '/', '?', '\\']

instance : DecidablePred IsAuthorityChar :=
  fun _ => inferInstanceAs (Decidable (_ ∧ _ ∧ _))

theorem isAuthorityChar_of_isKept
    {c : Char} (hkept : IsKept userEscapes c) :
    IsAuthorityChar c ∧ c ≠ ':' := by
  have hall : ∀ c : Char, c.toNat < 0x80 → IsKept userEscapes c →
      IsAuthorityChar c ∧ c ≠ ':' :=
    forall_ascii (by decide)
  exact hall c (Nat.lt_succ_of_lt hkept.2.1) hkept

theorem isAuthorityChar_of_isDomainChar
    {c : Char} (hc : IsDomainChar c) :
    IsAuthorityChar c ∧ c ∉ ['@', ':', '[', ']'] := by
  have hall : ∀ c : Char, c.toNat < 0x80 → isForbiddenInDomain c = false →
      IsAuthorityChar c ∧ c ∉ ['@', ':', '[', ']'] :=
    forall_ascii (by decide)
  exact hall c hc.ascii hc.allowed

theorem isAuthorityChar_of_isDigit
    {c : Char} (hc : c.isDigit = true) :
    IsAuthorityChar c ∧ c ≠ '@' := by
  have hall : ∀ c : Char, c.toNat < 0x80 → c.isDigit = true →
      IsAuthorityChar c ∧ c ≠ '@' :=
    forall_ascii (by decide)
  have hrange := toNat_of_isDigit hc
  exact hall c (by omega) hc

theorem isAuthorityChar_digitChar :
    ∀ d < 16, IsAuthorityChar (Nat.digitChar d) ∧
    Nat.digitChar d ∉ ['@', '[', ']'] := by
  decide

theorem mem_ipv6Inner
    {pieces : List Nat} {c : Char} (hc : c ∈ ipv6Inner pieces) :
    IsAuthorityChar c ∧ c ∉ ['@', '[', ']'] := by
  have hcolon : IsAuthorityChar ':' ∧ ':' ∉ ['@', '[', ']'] := by decide
  have hjoined : ∀ pieces : List Nat, ∀ c ∈ joinPieces pieces,
      IsAuthorityChar c ∧ c ∉ ['@', '[', ']'] := by
    intro pieces c hc
    rcases eq_or_mem_of_mem_intercalate hc with rfl | ⟨text, htext, hmem⟩
    · exact hcolon
    · obtain ⟨piece, -, rfl⟩ := List.mem_map.mp htext
      obtain ⟨d, hd, rfl⟩ := mem_hexChars hmem
      exact isAuthorityChar_digitChar d hd
  unfold ipv6Inner at hc
  split at hc
  · simp only [List.mem_append, List.mem_cons] at hc
    rcases hc with hleft | rfl | rfl | hright
    · exact hjoined _ c hleft
    · exact hcolon
    · exact hcolon
    · exact hjoined _ c hright
  · exact hjoined _ c hc

theorem Host.IsNormal.mem_chars
    {domains : DomainRules} {host : Host} {c : Char}
    (hhost : host.IsNormal domains) (hc : c ∈ host.chars) :
    IsAuthorityChar c ∧ c ≠ '@' := by
  have hdomain : ∀ {name : List Char}, IsDomain domains name → c ∈ name →
      IsAuthorityChar c ∧ c ≠ '@' := by
    intro name hname hmem
    obtain ⟨hchar, hmarks⟩ :=
      isAuthorityChar_of_isDomainChar (hname.chars c hmem)
    exact ⟨hchar, List.ne_of_not_mem_cons hmarks⟩
  cases hhost with
  | domain hname hsome hnumber => exact hdomain hname hc
  | @ipv4 address hname hsmall => exact hdomain hname hc
  | @ipv6 pieces hpieces =>
      simp only [chars_ipv6, List.mem_append, List.mem_cons, List.not_mem_nil,
        or_false] at hc
      rcases hc with (rfl | hinner) | rfl
      · decide
      · obtain ⟨hchar, hmarks⟩ := mem_ipv6Inner hinner
        exact ⟨hchar, List.ne_of_not_mem_cons hmarks⟩
      · decide

/-! ### Credentials -/

theorem splitUser_of_notMem
    {cs : List Char} (hmark : '@' ∉ cs) :
    splitUser cs = (none, cs) := by
  have hall : ∀ c ∈ cs.reverse, decide (c ≠ '@') = true := by
    intro c hc
    exact decide_eq_true (ne_of_mem_of_not_mem (List.mem_reverse.mp hc) hmark)
  rw [splitUser, List.takeWhile_eq_self_iff.mpr hall, List.reverse_reverse]
  exact if_pos rfl

theorem splitUser_append
    {host : List Char} (user : List Char) (hmark : '@' ∉ host) :
    splitUser (user ++ '@' :: host) = (some user, host) := by
  have hall : ∀ c ∈ host.reverse, decide (c ≠ '@') = true := by
    intro c hc
    exact decide_eq_true (ne_of_mem_of_not_mem (List.mem_reverse.mp hc) hmark)
  have htail :
      (user ++ '@' :: host).reverse.takeWhile (· ≠ '@') = host.reverse := by
    rw [List.reverse_append, List.reverse_cons, List.append_assoc,
      List.takeWhile_append_of_pos hall]
    simp
  have hlonger : host.length ≠ (user ++ '@' :: host).length := by
    simp only [List.length_append, List.length_cons]
    omega
  have hcount :
      (user ++ '@' :: host).length - host.length - 1 = user.length := by
    simp only [List.length_append, List.length_cons]
    omega
  rw [splitUser, htail, List.reverse_reverse, if_neg hlonger, hcount,
    List.take_left]

/-- The credentials before the `@`. -/
def Authority.user (authority : Authority) : List Char :=
  authority.username ++
    (if authority.password.isEmpty then [] else ':' :: authority.password)

/-- The host and the port as they are written. -/
def Authority.place (authority : Authority) : List Char :=
  authority.host.chars ++
    match authority.port with
    | some port => ':' :: Nat.toDigits 10 port
    | none => []

theorem chars_authority (authority : Authority) :
    authority.chars =
      (if authority.user.isEmpty then [] else authority.user ++ ['@']) ++
      authority.place := by
  unfold Authority.chars Authority.user Authority.place
  cases authority.port with
  | none => simp
  | some port => simp

/-! ### Hosts and ports -/

theorem splitPort_append
    {inBrackets : Bool} {cs : List Char} (hbrackets : '[' ∉ cs ∧ ']' ∉ cs)
    (hcolon : inBrackets = false → ':' ∉ cs) (rest : List Char) :
    splitPort inBrackets (cs ++ rest) =
      (cs ++ (splitPort inBrackets rest).1, (splitPort inBrackets rest).2) := by
  induction cs with
  | nil => rfl
  | cons c cs ih =>
      have hopen : c ≠ '[' := (List.ne_of_not_mem_cons hbrackets.1).symm
      have hclose : c ≠ ']' := (List.ne_of_not_mem_cons hbrackets.2).symm
      have hmark : (decide (c = ':') && !inBrackets) = false := by
        cases inBrackets with
        | true => simp
        | false => simpa using (List.ne_of_not_mem_cons (hcolon rfl)).symm
      have hrest := ih
        ⟨List.not_mem_of_not_mem_cons hbrackets.1,
          List.not_mem_of_not_mem_cons hbrackets.2⟩
        fun houtside => List.not_mem_of_not_mem_cons (hcolon houtside)
      rw [List.cons_append, splitPort, if_neg (by simp [hmark]), if_neg hopen,
        if_neg hclose, hrest]
      rfl

theorem Host.IsNormal.splitPort_chars
    {domains : DomainRules} {host : Host} (hhost : host.IsNormal domains)
    (rest : List Char) :
    splitPort false (host.chars ++ rest) =
      (host.chars ++ (splitPort false rest).1, (splitPort false rest).2) := by
  have hdomain : ∀ {name : List Char}, IsDomain domains name →
      splitPort false (name ++ rest) =
        (name ++ (splitPort false rest).1, (splitPort false rest).2) := by
    intro name hname
    have hmarks := fun mark (hmem : mark ∈ name) =>
      (isAuthorityChar_of_isDomainChar (hname.chars mark hmem)).2
    apply splitPort_append
    · exact ⟨fun hmem => hmarks '[' hmem (by decide),
        fun hmem => hmarks ']' hmem (by decide)⟩
    · exact fun _ hmem => hmarks ':' hmem (by decide)
  cases hhost with
  | domain hname hsome hnumber => exact hdomain hname
  | @ipv4 address hname hsmall => exact hdomain hname
  | @ipv6 pieces hpieces =>
      have hmarks := fun mark (hmem : mark ∈ ipv6Inner pieces) =>
          (mem_ipv6Inner hmem).2
      have hinner : splitPort true (ipv6Inner pieces ++ ']' :: rest) =
          (ipv6Inner pieces ++ (splitPort true (']' :: rest)).1,
            (splitPort true (']' :: rest)).2) := by
        apply splitPort_append
        · exact ⟨fun hmem => hmarks '[' hmem (by decide),
            fun hmem => hmarks ']' hmem (by decide)⟩
        · exact fun hfalse => nomatch hfalse
      have hopen (cs : List Char) : splitPort false ('[' :: cs) =
          ('[' :: (splitPort true cs).1, (splitPort true cs).2) := rfl
      have hclose : splitPort true (']' :: rest) =
          (']' :: (splitPort false rest).1, (splitPort false rest).2) := rfl
      rw [chars_ipv6, List.append_assoc, List.singleton_append,
        List.cons_append, hopen, hinner, hclose]
      simp

theorem readPort_toDigits
    {scheme : List Char} {port : Nat} (hsmall : port < 65536)
    (hport : webPort? scheme ≠ some port) :
    readPort scheme (Nat.toDigits 10 port) = .ok (some port) := by
  have hdigits : (Nat.toDigits 10 port).all Char.isDigit = true :=
    List.all_eq_true.mpr fun c hc =>
      Nat.isDigit_of_mem_toDigits (by decide) (by decide) hc
  have hsome : (Nat.toDigits 10 port).isEmpty = false :=
    List.isEmpty_eq_false_iff.mpr Nat.toDigits_ne_nil
  simp [readPort, hdigits, hsome, Nat.ofDigitChars_ten_toDigits, hsmall, hport]

/-! ### Authorities -/

/-- The authority of a web URL as it is once it has been read. -/
structure IsAuthority (domains : DomainRules) (scheme : List Char)
    (authority : Authority) : Prop where
  username : ∀ c ∈ authority.username, IsKept userEscapes c
  password : ∀ c ∈ authority.password, IsKept userEscapes c
  host : authority.host.IsNormal domains
  port : ∀ port ∈ authority.port, port < 65536 ∧ webPort? scheme ≠ some port

theorem isKept_of_mem_encodeChars
    {cs : List Char} {c : Char} (hc : c ∈ encodeChars userEscapes cs) :
    IsKept userEscapes c := by
  have hdigit : ∀ n < 16, IsKept userEscapes (hexDigit n) := by decide
  rcases mem_encodeChars hc with ⟨-, hkept⟩ | rfl | ⟨n, hn, rfl⟩
  · exact hkept
  · decide
  · exact hdigit n hn

theorem readPort_spec
    {scheme cs : List Char} {found : Option Nat}
    (hread : readPort scheme cs = .ok found) :
    ∀ port ∈ found, port < 65536 ∧ webPort? scheme ≠ some port := by
  unfold readPort at hread
  split at hread
  · rename_i hsmall
    obtain rfl := Except.ok.inj hread
    intro port hport
    simp only [Bool.and_eq_true, decide_eq_true_eq] at hsmall
    split at hport
    · cases hport
    · rename_i hother
      obtain rfl := Option.some.inj hport
      simp only [Bool.or_eq_true, decide_eq_true_eq, not_or] at hother
      exact ⟨hsmall.2, hother.2⟩
  · cases hread

section Reading

variable {domains : DomainRules} {scheme : List Char} {authority : Authority}

/-- The name before the colon, and what stands after it. -/
def nameOf (user : List Char) : List Char :=
  user.takeWhile (· ≠ ':')

def passwordOf (user : List Char) : List Char :=
  (user.drop (nameOf user).length).drop 1

theorem readAuthority_of_isWeb
    {cs rest hostText : List Char} {user portText : Option (List Char)}
    (hweb : isWeb scheme = true) (huser : splitUser cs = (user, rest))
    (hport : splitPort false rest = (hostText, portText)) :
    readAuthority domains scheme cs =
      if hostText.isEmpty then .error .emptyHost
      else do
        let host ← Host.read domains hostText
        let port ← portText.elim (.ok none) (readPort scheme)
        return {
          username := encodeChars userEscapes (nameOf (user.getD []))
          password := encodeChars userEscapes (passwordOf (user.getD []))
          host, port } := by
  simp only [readAuthority, huser, hport, hweb, Bool.true_or, if_true]
  cases portText with
  | none => rfl
  | some text => rfl

theorem isAuthority_of_readAuthority
    {cs : List Char} (hsound : domains.IsSound) (hweb : isWeb scheme = true)
    (hread : readAuthority domains scheme cs = .ok authority) :
    IsAuthority domains scheme authority := by
  rcases huser : splitUser cs with ⟨user, rest⟩
  rcases hport : splitPort false rest with ⟨hostText, portText⟩
  rw [readAuthority_of_isWeb hweb huser hport] at hread
  split at hread
  · cases hread
  · obtain ⟨host, hhost, hread⟩ := bind_eq_ok_iff.mp hread
    obtain ⟨port, hfound, hread⟩ := bind_eq_ok_iff.mp hread
    obtain rfl := Except.ok.inj hread
    constructor
    case username => exact fun c hc => isKept_of_mem_encodeChars hc
    case password => exact fun c hc => isKept_of_mem_encodeChars hc
    case host => exact Host.isNormal_of_read hsound hhost
    case port =>
      cases portText with
      | none =>
          obtain rfl := Except.ok.inj hfound
          exact fun _ hnone => nomatch hnone
      | some text => exact readPort_spec hfound

theorem nameOf_user
    (hauthority : IsAuthority domains scheme authority) :
    nameOf authority.user = authority.username := by
  have hall : ∀ c ∈ authority.username, decide (c ≠ ':') = true :=
    fun c hc =>
      decide_eq_true (isAuthorityChar_of_isKept (hauthority.username c hc)).2
  rw [nameOf, Authority.user, List.takeWhile_append_of_pos hall]
  split
  · rw [List.takeWhile_nil, List.append_nil]
  · simp

theorem passwordOf_user
    (hauthority : IsAuthority domains scheme authority) :
    passwordOf authority.user = authority.password := by
  rw [passwordOf, nameOf_user hauthority, Authority.user, List.drop_left]
  split
  · rename_i hempty
    exact (List.isEmpty_iff.mp hempty).symm
  · rfl

theorem IsAuthority.mem_place
    {c : Char} (hauthority : IsAuthority domains scheme authority)
    (hc : c ∈ authority.place) : IsAuthorityChar c ∧ c ≠ '@' := by
  rcases List.mem_append.mp hc with hhost | hport
  · exact hauthority.host.mem_chars hhost
  · split at hport
    · rcases List.mem_cons.mp hport with rfl | hdigit
      · decide
      · exact isAuthorityChar_of_isDigit
          (Nat.isDigit_of_mem_toDigits (by decide) (by decide) hdigit)
    · cases hport

theorem IsAuthority.mem_user
    {c : Char} (hauthority : IsAuthority domains scheme authority)
    (hc : c ∈ authority.user) : IsAuthorityChar c := by
  rcases List.mem_append.mp hc with hname | hpassword
  · exact (isAuthorityChar_of_isKept (hauthority.username c hname)).1
  · split at hpassword
    · cases hpassword
    · rcases List.mem_cons.mp hpassword with rfl | hmem
      · decide
      · exact (isAuthorityChar_of_isKept (hauthority.password c hmem)).1

theorem IsAuthority.mem_chars
    {c : Char} (hauthority : IsAuthority domains scheme authority)
    (hc : c ∈ authority.chars) : IsAuthorityChar c := by
  rw [chars_authority] at hc
  rcases List.mem_append.mp hc with huser | hplace
  · split at huser
    · cases huser
    · rcases List.mem_append.mp huser with hmem | hmark
      · exact hauthority.mem_user hmem
      · rw [List.mem_singleton.mp hmark]
        decide
  · exact (hauthority.mem_place hplace).1

theorem IsAuthority.chars_ne_nil
    (hauthority : IsAuthority domains scheme authority) :
    authority.chars ≠ [] := by
  rw [chars_authority, Authority.place]
  exact List.append_ne_nil_of_right_ne_nil _
    (List.append_ne_nil_of_left_ne_nil hauthority.host.chars_ne_nil _)

theorem IsAuthority.splitPort_place
    (hauthority : IsAuthority domains scheme authority) :
    splitPort false authority.place =
      (authority.host.chars, authority.port.map (Nat.toDigits 10)) := by
  rw [Authority.place, hauthority.host.splitPort_chars]
  cases authority.port with
  | none => simp [splitPort]
  | some port => simp [splitPort]

theorem IsAuthority.splitUser_chars
    (hauthority : IsAuthority domains scheme authority) :
    ∃ user, user.getD [] = authority.user ∧
      splitUser authority.chars = (user, authority.place) := by
  have hmark : '@' ∉ authority.place :=
    fun hmem => (hauthority.mem_place hmem).2 rfl
  rw [chars_authority]
  cases huser : authority.user with
  | nil => exact ⟨none, rfl, splitUser_of_notMem hmark⟩
  | cons c rest =>
      refine ⟨some (c :: rest), rfl, ?_⟩
      rw [← splitUser_append (c :: rest) hmark]
      simp

theorem IsAuthority.read_chars
    (hauthority : IsAuthority domains scheme authority)
    (hweb : isWeb scheme = true) :
    readAuthority domains scheme authority.chars = .ok authority := by
  obtain ⟨user, hgiven, huser⟩ := hauthority.splitUser_chars
  have hsome : authority.host.chars.isEmpty = false :=
    List.isEmpty_eq_false_iff.mpr hauthority.host.chars_ne_nil
  have hport :
      (authority.port.map (Nat.toDigits 10)).elim (.ok none) (readPort scheme) =
        .ok authority.port := by
    cases hfound : authority.port with
    | none => rfl
    | some port =>
        obtain ⟨hsmall, hother⟩ := hauthority.port port hfound
        exact readPort_toDigits hsmall hother
  rw [readAuthority_of_isWeb hweb huser hauthority.splitPort_place, hsome,
    hgiven, hauthority.host.read_chars, hport, nameOf_user hauthority,
      passwordOf_user hauthority,
    encodeChars_of_isKept hauthority.username,
      encodeChars_of_isKept hauthority.password]
  rfl

end Reading

end FamilyOrders.Url
