import FlowCheck.Proofs.Findings
import FlowCheck.Proofs.Text.Words
import FlowCheck.Rules.Metadata
import Mathlib.Computability.Language

/-!
# Addresses of owners

An address is a name and a domain around one at sign, neither of them with a blank, and a point inside the domain
(`IsAddress`).  The check cuts at the first at sign and never goes back, but it accepts exactly the addresses
(`isEmail_iff`), and these are the words of the pattern in which two runs stand around some point of the domain
(`mem_addresses_iff`).

Of a flow's metadata exactly the owners are reported whose stripped e-mail is no address, in order
(`ownerEmails_are_reported_exactly`).
-/

namespace FlowCheck.Rules

variable {cs domain name : List Char}

/-- A character that may stand anywhere in a name or a domain. -/
def IsOrdinary (c : Char) : Prop :=
  c ≠ '@' ∧ Text.isBlank c = false

/-- A name and a domain around one at sign; the domain has a point that is neither its first nor its last
character. -/
def IsAddress (cs : List Char) : Prop :=
  ∃ name domain, cs = name ++ '@' :: domain ∧ name ≠ [] ∧ (∀ c ∈ name ++ domain, IsOrdinary c) ∧
    ∃ i, 0 < i ∧ i + 1 < domain.length ∧ domain[i]? = some '.'

/-! ### The pattern -/

/-- Runs of one ordinary character or more. -/
def runs : Language Char :=
  {cs | cs ≠ [] ∧ ∀ c ∈ cs, IsOrdinary c}

/-- A run, an at sign, a run, a point and a run. -/
def addresses : Language Char :=
  runs * {['@']} * runs * {['.']} * runs

theorem mem_addresses :
    cs ∈ addresses ↔ ∃ name ∈ runs, ∃ host ∈ runs, ∃ zone ∈ runs, cs = name ++ '@' :: (host ++ '.' :: zone) := by
  simp only [addresses, Language.mem_mul]
  constructor
  · rintro ⟨_, ⟨_, ⟨_, ⟨name, hname, _, rfl, rfl⟩, host, hhost, rfl⟩, _, rfl, rfl⟩, zone, hzone, rfl⟩
    exact ⟨name, hname, host, hhost, zone, hzone, by simp⟩
  · rintro ⟨name, hname, host, hhost, zone, hzone, rfl⟩
    exact ⟨_, ⟨_, ⟨_, ⟨name, hname, _, rfl, rfl⟩, host, hhost, rfl⟩, _, rfl, rfl⟩, zone, hzone, by simp⟩

theorem mem_addresses_iff : cs ∈ addresses ↔ IsAddress cs := by
  rw [mem_addresses]
  constructor
  · rintro ⟨name, ⟨hname, hnames⟩, host, ⟨hhost, hhosts⟩, zone, ⟨hzone, hzones⟩, rfl⟩
    have hpoint : IsOrdinary '.' := ⟨by decide, rfl⟩
    refine ⟨name, _, rfl, hname, ?_, host.length, List.length_pos_iff.2 hhost, ?_, ?_⟩
    · simp only [List.forall_mem_append, List.forall_mem_cons]
      exact ⟨hnames, hhosts, hpoint, hzones⟩
    · have hlength := List.length_pos_iff.2 hzone
      rw [List.length_append, List.length_cons]
      omega
    · rw [List.getElem?_append_right (Nat.le_refl _), Nat.sub_self, List.getElem?_cons_zero]
  · rintro ⟨name, domain, rfl, hname, hall, i, hpos, hlt, hpoint⟩
    obtain ⟨hnames, hdomain⟩ := List.forall_mem_append.1 hall
    -- the domain is cut at the point
    have hcut : domain = domain.take i ++ '.' :: domain.drop (i + 1) := by
      obtain ⟨hi, hget⟩ := List.getElem?_eq_some_iff.1 hpoint
      rw [← hget, List.getElem_cons_drop, List.take_append_drop]
    refine ⟨name, ⟨hname, hnames⟩, domain.take i, ⟨?_, fun c hc => hdomain c (List.mem_of_mem_take hc)⟩,
      domain.drop (i + 1), ⟨?_, fun c hc => hdomain c (List.mem_of_mem_drop hc)⟩, by rw [← hcut]⟩
    · rw [← List.length_pos_iff, List.length_take]
      omega
    · rw [← List.length_pos_iff, List.length_drop]
      omega

/-! ### The check -/

theorem hasInnerPoint_iff :
    hasInnerPoint domain = true ↔ ∃ i, 0 < i ∧ i + 1 < domain.length ∧ domain[i]? = some '.' := by
  rw [hasInnerPoint, List.contains_iff_mem, List.mem_iff_getElem?]
  simp only [List.getElem?_dropLast, List.getElem?_drop, List.length_drop]
  constructor
  · rintro ⟨i, hi⟩
    rw [Option.ite_none_right_eq_some] at hi
    exact ⟨1 + i, by omega, by omega, hi.2⟩
  · rintro ⟨i, hpos, hlt, hpoint⟩
    refine ⟨i - 1, ?_⟩
    rw [if_pos (by omega), Nat.add_sub_cancel' hpos, hpoint]

/-- Cut at its first at sign, a text gives what stands before and after it. -/
theorem cut_at_sign (domain : List Char) (hname : ∀ c ∈ name, c ≠ '@') :
    (name ++ '@' :: domain).takeWhile (· != '@') = name ∧
      (name ++ '@' :: domain).dropWhile (· != '@') = '@' :: domain := by
  have hbefore : ∀ c ∈ name, (c != '@') = true := fun c hc => bne_iff_ne.2 (hname c hc)
  rw [List.takeWhile_append_of_pos hbefore, List.dropWhile_append_of_pos hbefore]
  simp

theorem exists_cut (h : '@' ∈ cs) : ∃ name domain, cs = name ++ '@' :: domain ∧ ∀ c ∈ name, c ≠ '@' := by
  obtain ⟨name, domain, rfl, hname⟩ := List.eq_append_cons_of_mem h
  exact ⟨name, domain, rfl, fun c hc heq => hname (heq ▸ hc)⟩

/-- The check accepts exactly the addresses. -/
theorem isEmail_iff : isEmail cs = true ↔ IsAddress cs := by
  constructor
  · intro h
    simp only [isEmail, Bool.and_eq_true, Bool.not_eq_true', List.isEmpty_eq_false_iff, beq_iff_eq,
      List.any_eq_false, Bool.not_eq_true] at h
    obtain ⟨⟨⟨hne, hblank⟩, hcount⟩, hinner⟩ := h
    obtain ⟨name, domain, rfl, hname⟩ := exists_cut (List.count_pos_iff.1 (by rw [hcount]; exact Nat.one_pos))
    obtain ⟨hbefore, hafter⟩ := cut_at_sign domain hname
    rw [hbefore] at hne
    rw [hafter, List.drop_one, List.tail_cons] at hinner
    -- no second at sign is left for the domain
    have hdomain : ∀ c ∈ domain, c ≠ '@' := by
      rw [List.count_append, List.count_cons_self] at hcount
      rintro c hc rfl
      have hpos := List.count_pos_iff.2 hc
      omega
    refine ⟨name, domain, rfl, hne, fun c hc => ?_, hasInnerPoint_iff.1 hinner⟩
    rcases List.mem_append.1 hc with hc | hc
    · exact ⟨hname c hc, hblank c (List.mem_append_left _ hc)⟩
    · exact ⟨hdomain c hc, hblank c (List.mem_append_right _ (List.mem_cons_of_mem _ hc))⟩
  · rintro ⟨name, domain, rfl, hne, hall, hinner⟩
    obtain ⟨hnames, hdomain⟩ := List.forall_mem_append.1 hall
    obtain ⟨hbefore, hafter⟩ := cut_at_sign domain fun c hc => (hnames c hc).1
    have hzero : ∀ {part : List Char}, (∀ c ∈ part, IsOrdinary c) → part.count '@' = 0 :=
      fun hpart => List.count_eq_zero.2 fun hmem => (hpart '@' hmem).1 rfl
    have hblank : (name ++ '@' :: domain).any Text.isBlank = false := by
      rw [List.any_append, List.any_cons, Bool.or_eq_false_iff, Bool.or_eq_false_iff, List.any_eq_false,
        List.any_eq_false]
      exact ⟨fun c hc => Bool.eq_false_iff.1 (hnames c hc).2, rfl, fun c hc => Bool.eq_false_iff.1 (hdomain c hc).2⟩
    rw [isEmail, hbefore, hafter, hblank, List.drop_one, List.tail_cons, hasInnerPoint_iff.2 hinner, List.count_append,
      List.count_cons_self, hzero hnames, hzero hdomain, List.isEmpty_eq_false_iff.2 hne]
    rfl

/-! ### What is reported -/

/-- Among the findings on metadata, those on addresses are the findings on the owners. -/
theorem filter_metadata (m : Metadata) :
    (metadata m).filter (·.code == "OWNER_EMAIL_INVALID") = (m.owners.mapIdx owner).flatten := by
  have hother : ∀ {reason : Bool} {finding : Finding}, finding.code ≠ "OWNER_EMAIL_INVALID" →
      (Finding.when reason finding).filter (·.code == "OWNER_EMAIL_INVALID") = [] := fun hne =>
    List.filter_eq_nil_iff.2 (forall_mem_when.2 fun _ => by simpa using hne)
  have hversion : (version m.version).filter (·.code == "OWNER_EMAIL_INVALID") = [] := by
    unfold version
    split <;> rfl
  have howners : (m.owners.mapIdx owner).flatten.filter (·.code == "OWNER_EMAIL_INVALID") =
      (m.owners.mapIdx owner).flatten :=
    List.filter_eq_self.2 (forall_mem_flatten_mapIdx.2 fun i hi => forall_mem_when.2 fun _ => rfl)
  simp only [metadata, requireText, List.filter_append]
  rw [hother (by decide), hversion, hother (by decide), howners, hother (by decide), hother (by decide)]
  simp

theorem text_addressPath (i : Nat) :
    ((((Path.mk "metadata" []).field "owners").index i).field "email").text = s!"metadata.owners[{i}].email" := by
  have hopen : "metadata.owners[" = "metadata" ++ "." ++ "owners" ++ "[" := rfl
  have hclose : "].email" = "]" ++ "." ++ "email" := rfl
  have hroot : (Path.mk "metadata" []).text = "metadata" := rfl
  rw [Path.text_field, Path.text_index, Path.text_field, hroot]
  change _ = "metadata.owners[" ++ toString i ++ "].email"
  rw [hopen, hclose]
  simp only [String.append_assoc]
  rfl

/-- What is reported of the e-mail of an owner. -/
def addressFinding (i : Nat) (o : Owner) : Finding :=
  ⟨some s!"metadata.owners[{i}].email", s!"owner '{o.name}' has an invalid email '{o.email}'", "OWNER_EMAIL_INVALID",
    .warning⟩

/-- Without the blanks at both ends, the e-mail is an address. -/
def HasAddress (o : Owner) : Prop :=
  ∃ address, Text.Strips o.email.toList address ∧ IsAddress address

theorem hasAddress_iff {o : Owner} : HasAddress o ↔ isEmail (Text.trim o.email).toList = true := by
  simp only [HasAddress, Text.strips_iff, exists_eq_left, isEmail_iff]

theorem owner_cases (i : Nat) (o : Owner) :
    owner i o = [] ∧ HasAddress o ∨ owner i o = [addressFinding i o] ∧ ¬HasAddress o := by
  rw [hasAddress_iff, owner, Finding.warning, text_addressPath]
  cases isEmail (Text.trim o.email).toList with
  | true => exact .inl ⟨rfl, rfl⟩
  | false => exact .inr ⟨rfl, Bool.false_ne_true⟩

/-- The indices of the owners whose e-mails are reported. -/
def reportedOwners (m : Metadata) : List Nat :=
  (List.range m.owners.length).filter fun i => (m.owners[i]?).any fun o => !(owner i o).isEmpty

theorem mem_reportedOwners {m : Metadata} {i : Nat} :
    i ∈ reportedOwners m ↔ ∃ o, m.owners[i]? = some o ∧ ¬HasAddress o := by
  rw [reportedOwners, List.mem_filter, List.mem_range]
  have hcase : ∀ o, (!(owner i o).isEmpty) = true ↔ ¬HasAddress o := by
    intro o
    rcases owner_cases i o with ⟨hnone, haddress⟩ | ⟨hone, hbad⟩
    · simp [hnone, haddress]
    · simp [hone, hbad]
  constructor
  · rintro ⟨hi, hany⟩
    rw [List.getElem?_eq_getElem hi, Option.any_some] at hany
    exact ⟨_, List.getElem?_eq_getElem hi, (hcase _).1 hany⟩
  · rintro ⟨o, ho, hbad⟩
    rw [ho, Option.any_some]
    exact ⟨(List.getElem?_eq_some_iff.1 ho).1, (hcase o).2 hbad⟩

end FlowCheck.Rules

namespace FlowCheck

/-- The check of an e-mail accepts the texts of one pattern, which are the addresses.  An owner is reported for
an invalid e-mail exactly if the e-mail, stripped of blanks, is no address; these findings come in the order of
owners. -/
theorem ownerEmails_are_reported_exactly (m : Metadata) :
    (∀ cs, Rules.isEmail cs = true ↔ cs ∈ Rules.addresses) ∧
      ∃ indices : List Nat, indices.Pairwise (· < ·) ∧
        (∀ i, i ∈ indices ↔ ∃ o, m.owners[i]? = some o ∧
          ¬∃ address, Text.Strips o.email.toList address ∧ Rules.IsAddress address) ∧
        List.Forall₂ (fun i finding => ∃ o, m.owners[i]? = some o ∧ finding = Rules.addressFinding i o) indices
          ((Rules.metadata m).filter (·.code == "OWNER_EMAIL_INVALID")) := by
  refine ⟨fun cs => Rules.isEmail_iff.trans Rules.mem_addresses_iff.symm, Rules.reportedOwners m,
    List.pairwise_lt_range.filter _, fun i => Rules.mem_reportedOwners, ?_⟩
  rw [Rules.filter_metadata]
  refine forall₂_flatten_mapIdx fun i hi => ?_
  rcases Rules.owner_cases i m.owners[i] with ⟨hnone, -⟩ | ⟨hone, -⟩
  · exact .inl hnone
  · exact .inr ⟨_, hone, _, List.getElem?_eq_getElem hi, rfl⟩

/-- Points at the ends of the domain, a second at sign, a blank inside and a missing name are reported; blanks around
an address are not. -/
example : (Rules.metadata ⟨"f", "1.0.0", none, none, [],
      [" a@b.c
", "a@.b", "a@b.", "a@.b.", "a@b.c@d.e", "a b@c.d", "@b.c"].map (⟨"A", ·, none, none⟩), none, none⟩).map
        (·.path) =
    [some "metadata.owners[1].email", some "metadata.owners[2].email", some "metadata.owners[3].email",
      some "metadata.owners[4].email", some "metadata.owners[5].email", some "metadata.owners[6].email"] := by cbv

end FlowCheck
