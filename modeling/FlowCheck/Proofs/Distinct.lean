import FlowCheck.Proofs.Findings
import FlowCheck.Proofs.Structure.Places

/-!
# Findings that no two of are alike

Two findings are alike when they have the same place and the same code.  That no two findings in a list are
alike is shown piece by piece: the findings of a piece are under some codes, at some paths or further
(`Spread`), and two pieces have no findings alike if their codes are different, or if their paths lead to
different texts whatever follows (`Spread.differs`).

A text of a path is no list of segments, as a field name may be any text.  Yet two fields of one mapping lead to
different texts if neither name is the beginning of the other (`apart_field`), and so do two elements of one
list, since a bracket ends the digits of an index (`apart_index`).
-/

namespace FlowCheck

/-! ### Findings that differ -/

/-- The findings are not alike. -/
def Finding.Differs (a b : Finding) : Prop :=
  a.path = b.path → a.code ≠ b.code

theorem Finding.Differs.symm {a b : Finding} (h : a.Differs b) : b.Differs a :=
  fun hpath hcode => h hpath.symm hcode.symm

/-- No two findings are alike. -/
def Distinct (findings : List Finding) : Prop :=
  findings.Pairwise Finding.Differs

/-- Splitting findings by whether they block makes none alike. -/
theorem distinct_ofFindings {findings : List Finding} (h : Distinct findings) :
    Distinct (ValidationResult.ofFindings findings).findings := by
  have hperm : (findings.filter (·.isBlocking) ++ findings.filter (!·.isBlocking)).Perm findings :=
    List.filter_append_perm (·.isBlocking) findings
  exact (hperm.pairwise_iff Finding.Differs.symm).2 h

/-! ### Texts that go different ways -/

/-- Neither text is the beginning of the other. -/
def Diverge (a b : String) : Prop :=
  ¬a.toList <+: b.toList ∧ ¬b.toList <+: a.toList

instance (a b : String) : Decidable (Diverge a b) :=
  inferInstanceAs (Decidable (¬a.toList <+: b.toList ∧ ¬b.toList <+: a.toList))

theorem Diverge.append_ne {a b : String} (h : Diverge a b) (r s : String) : a ++ r ≠ b ++ s := by
  intro heq
  have hlist := congrArg String.toList heq
  rw [String.toList_append, String.toList_append] at hlist
  have ha : a.toList <+: b.toList ++ s.toList := ⟨r.toList, hlist⟩
  rcases List.prefix_or_prefix_of_prefix ha (List.prefix_append _ _) with hab | hba
  · exact h.1 hab
  · exact h.2 hba

/-- An index can be read off the text that begins with it and a bracket. -/
theorem repr_bracket_inj {i j : Nat} {r s : String} (h : Nat.repr i ++ "]" ++ r = Nat.repr j ++ "]" ++ s) : i = j := by
  have hdigits : ∀ n, ∀ c ∈ (Nat.repr n).toList, (c != ']') = true := by
    intro n c hc
    rw [bne_iff_ne]
    rintro rfl
    exact notMem_repr rfl n hc
  have htake : ∀ (n : Nat) (t : String),
      (Nat.repr n ++ "]" ++ t).toList.takeWhile (· != ']') = (Nat.repr n).toList := by
    intro n t
    rw [String.append_assoc, String.toList_append, List.takeWhile_append_of_pos (hdigits n)]
    simp [String.toList_append]
  have hrepr : (Nat.repr i).toList = (Nat.repr j).toList := by rw [← htake i r, ← htake j s, h]
  exact repr_inj.1 (String.toList_inj.1 hrepr)

/-! ### Paths that go different ways -/

namespace Path

variable {path : Path}

/-- The text is that of the path, or goes on from there. -/
def Begins (path : Path) (text : String) : Prop :=
  ∃ rest, text = path.text ++ rest

/-- No text goes on from both. -/
def Apart (p q : Path) : Prop :=
  ∀ text, p.Begins text → ¬q.Begins text

theorem begins_self (path : Path) : path.Begins path.text :=
  ⟨"", String.append_empty.symm⟩

theorem Begins.of_field {name text : String} (h : (path.field name).Begins text) : path.Begins text := by
  obtain ⟨rest, rfl⟩ := h
  exact ⟨"." ++ name ++ rest, by simp only [text_field, String.append_assoc]⟩

theorem Begins.of_index {i : Nat} {text : String} (h : (path.index i).Begins text) : path.Begins text := by
  obtain ⟨rest, rfl⟩ := h
  exact ⟨s!"[{i}]" ++ rest, by rw [text_index, String.append_assoc]⟩

theorem Covers.begins {text : String} (h : path.Covers text) : path.Begins text := by
  rcases h with rfl | ⟨rest, rfl⟩
  · exact path.begins_self
  · exact ⟨"." ++ rest, String.append_assoc⟩

theorem apart_field {a b : String} (h : Diverge a b) : (path.field a).Apart (path.field b) := by
  rintro text ⟨r, hr⟩ ⟨s, hs⟩
  rw [hr, text_field, text_field] at hs
  simp only [String.append_assoc, String.append_right_inj] at hs
  exact h.append_ne r s hs

theorem apart_section {a b : String} (h : Diverge a b) : (Path.mk a []).Apart (Path.mk b []) := by
  rintro text ⟨r, hr⟩ ⟨s, hs⟩
  rw [hr, Structure.text_section, Structure.text_section] at hs
  exact h.append_ne r s hs

theorem apart_index {i j : Nat} (h : i ≠ j) : (path.index i).Apart (path.index j) := by
  have htext : ∀ n, (path.index n).text = path.text ++ ("[" ++ (Nat.repr n ++ "]")) := by
    intro n
    rw [text_index]
    simp only [String.append_assoc]
    rfl
  rintro text ⟨r, hr⟩ ⟨s, hs⟩
  rw [hr, htext, htext] at hs
  simp only [String.append_assoc, String.append_right_inj] at hs
  refine h (repr_bracket_inj (r := r) (s := s) ?_)
  simp only [String.append_assoc, hs]

end Path

/-! ### Spread findings -/

/-- The findings are under the codes, at the paths or further, and no two are alike. -/
structure Spread (codes : List Code) (paths : List Path) (findings : List Finding) : Prop where
  coded : ∀ finding ∈ findings, ∃ code ∈ codes, finding.code = code.name
  placed : ∀ finding ∈ findings, ∃ path ∈ paths, ∃ text, finding.path = some text ∧ path.Begins text
  distinct : Distinct findings

section Spread

variable {α : Type} {codes others : List Code} {paths places : List Path} {path : Path} {xs ys : List Finding}

theorem spread_nil : Spread codes paths [] :=
  ⟨fun _ h => absurd h List.not_mem_nil, fun _ h => absurd h List.not_mem_nil, List.Pairwise.nil⟩

theorem spread_singleton {code : Code} {message : String} {severity : Severity} (h : code ∈ codes) :
    Spread codes [path] [⟨some path.text, message, code.name, severity⟩] :=
  ⟨List.forall_mem_singleton.2 ⟨code, h, rfl⟩,
    List.forall_mem_singleton.2 ⟨path, List.mem_singleton_self _, path.text, rfl, path.begins_self⟩,
    List.pairwise_singleton _ _⟩

theorem spread_when {reason : Bool} {code : Code} {message : String} {severity : Severity} :
    Spread [code] [path] (Finding.when reason ⟨some path.text, message, code.name, severity⟩) := by
  cases reason with
  | false => exact spread_nil
  | true => exact spread_singleton (List.mem_singleton_self code)

/-- More codes, and paths that come before. -/
theorem Spread.mono (h : Spread codes paths xs) (hcodes : codes ⊆ others)
    (hpaths : ∀ path ∈ paths, ∃ place ∈ places, ∀ text, path.Begins text → place.Begins text) :
    Spread others places xs := by
  refine ⟨fun finding hmem => ?_, fun finding hmem => ?_, h.distinct⟩
  · obtain ⟨code, hcode, hname⟩ := h.coded finding hmem
    exact ⟨code, hcodes hcode, hname⟩
  · obtain ⟨path, hpath, text, htext, hbegins⟩ := h.placed finding hmem
    obtain ⟨place, hplace, hbefore⟩ := hpaths path hpath
    exact ⟨place, hplace, text, htext, hbefore text hbegins⟩

theorem Spread.of_subset (h : Spread codes paths xs) (hcodes : codes ⊆ others) : Spread others paths xs :=
  h.mono hcodes fun path hpath => ⟨path, hpath, fun _ h => h⟩

/-- Findings below fields of a mapping are below the mapping. -/
theorem Spread.of_fields {names : List String} (h : Spread codes (names.map path.field) xs) :
    Spread codes [path] xs := by
  refine h.mono (List.Subset.refl _) fun place hplace => ⟨path, List.mem_singleton_self _, ?_⟩
  obtain ⟨name, -, rfl⟩ := List.mem_map.1 hplace
  exact fun text => Path.Begins.of_field

theorem Spread.of_field {name : String} (h : Spread codes [path.field name] xs) : Spread codes [path] xs :=
  have hfields : Spread codes ([name].map path.field) xs := h
  hfields.of_fields

/-- Findings under different codes, or at paths that go different ways, are not alike. -/
theorem Spread.differs (hxs : Spread codes paths xs) (hys : Spread others places ys)
    (h : (∀ code ∈ codes, code ∉ others) ∨ ∀ path ∈ paths, ∀ place ∈ places, path.Apart place) :
    ∀ a ∈ xs, ∀ b ∈ ys, a.Differs b := by
  intro a ha b hb hpath hcode
  rcases h with hdisjoint | hapart
  · obtain ⟨code, hmem, hname⟩ := hxs.coded a ha
    obtain ⟨other, hother, hothername⟩ := hys.coded b hb
    have hsame : code = other := Code.name_injective (hname.symm.trans (hcode.trans hothername))
    exact hdisjoint code hmem (hsame ▸ hother)
  · obtain ⟨p, hp, text, htext, hbegins⟩ := hxs.placed a ha
    obtain ⟨q, hq, other, hother, hotherbegins⟩ := hys.placed b hb
    obtain rfl : text = other := Option.some.inj (htext.symm.trans (hpath.trans hother))
    exact hapart p hp q hq text hbegins hotherbegins

theorem Spread.append (hxs : Spread codes paths xs) (hys : Spread others places ys)
    (h : (∀ code ∈ codes, code ∉ others) ∨ ∀ path ∈ paths, ∀ place ∈ places, path.Apart place) :
    Spread (codes ++ others) (paths ++ places) (xs ++ ys) := by
  refine ⟨List.forall_mem_append.2 ⟨fun finding hmem => ?_, fun finding hmem => ?_⟩,
    List.forall_mem_append.2 ⟨fun finding hmem => ?_, fun finding hmem => ?_⟩,
    List.pairwise_append.2 ⟨hxs.distinct, hys.distinct, hxs.differs hys h⟩⟩
  · obtain ⟨code, hcode, hname⟩ := hxs.coded finding hmem
    exact ⟨code, List.mem_append_left _ hcode, hname⟩
  · obtain ⟨code, hcode, hname⟩ := hys.coded finding hmem
    exact ⟨code, List.mem_append_right _ hcode, hname⟩
  · obtain ⟨path, hpath, hbegins⟩ := hxs.placed finding hmem
    exact ⟨path, List.mem_append_left _ hpath, hbegins⟩
  · obtain ⟨path, hpath, hbegins⟩ := hys.placed finding hmem
    exact ⟨path, List.mem_append_right _ hpath, hbegins⟩

/-- Findings at one path, under different codes. -/
theorem Spread.append_codes (hxs : Spread codes [path] xs) (hys : Spread others [path] ys)
    (h : ∀ code ∈ codes, code ∉ others) : Spread (codes ++ others) [path] (xs ++ ys) := by
  refine (hxs.append hys (Or.inl h)).mono (List.Subset.refl _) fun place hplace => ?_
  have hsame : place = path := (List.mem_append.1 hplace).elim List.mem_singleton.1 List.mem_singleton.1
  exact ⟨path, List.mem_singleton_self _, fun text h => hsame ▸ h⟩

/-- Findings at paths that have names and go different ways for different names. -/
theorem Spread.append_names {place : String → Path} (hplace : ∀ a b, Diverge a b → (place a).Apart (place b))
    {names rest : List String} (hxs : Spread codes (names.map place) xs) (hys : Spread codes (rest.map place) ys)
    (h : ∀ a ∈ names, ∀ b ∈ rest, Diverge a b) : Spread codes ((names ++ rest).map place) (xs ++ ys) := by
  have hapart : ∀ p ∈ names.map place, ∀ q ∈ rest.map place, p.Apart q := by
    intro p hp q hq
    obtain ⟨a, ha, rfl⟩ := List.mem_map.1 hp
    obtain ⟨b, hb, rfl⟩ := List.mem_map.1 hq
    exact hplace a b (h a ha b hb)
  rw [List.map_append]
  exact (hxs.append hys (Or.inr hapart)).of_subset (List.append_subset.2 ⟨List.Subset.refl _, List.Subset.refl _⟩)

/-- Findings below different fields of one mapping. -/
theorem Spread.append_fields {names rest : List String} (hxs : Spread codes (names.map path.field) xs)
    (hys : Spread codes (rest.map path.field) ys) (h : ∀ a ∈ names, ∀ b ∈ rest, Diverge a b) :
    Spread codes ((names ++ rest).map path.field) (xs ++ ys) :=
  hxs.append_names (fun _ _ => Path.apart_field) hys h

/-- Findings in different sections of a document. -/
theorem Spread.append_sections {names rest : List String} (hxs : Spread codes (names.map (Path.mk · [])) xs)
    (hys : Spread codes (rest.map (Path.mk · [])) ys) (h : ∀ a ∈ names, ∀ b ∈ rest, Diverge a b) :
    Spread codes ((names ++ rest).map (Path.mk · [])) (xs ++ ys) :=
  hxs.append_names (fun _ _ => Path.apart_section) hys h

/-- Findings on the elements of a list, each below its own element. -/
theorem spread_flatten_mapIdx {as : List α} {f : Nat → α → List Finding}
    (h : ∀ i (hi : i < as.length), Spread codes [path.index i] (f i as[i])) :
    Spread codes [path] (as.mapIdx f).flatten := by
  refine ⟨forall_mem_flatten_mapIdx.2 fun i hi => (h i hi).coded,
    forall_mem_flatten_mapIdx.2 fun i hi finding hmem => ?_, List.pairwise_flatten.2 ⟨?_, ?_⟩⟩
  · obtain ⟨place, hplace, text, htext, hbegins⟩ := (h i hi).placed finding hmem
    rw [List.mem_singleton.1 hplace] at hbegins
    exact ⟨path, List.mem_singleton_self _, text, htext, hbegins.of_index⟩
  · intro findings hmem
    obtain ⟨i, hi, rfl⟩ := List.mem_mapIdx.1 hmem
    exact (h i hi).distinct
  · rw [List.pairwise_iff_getElem]
    intro i j hi hj hij
    rw [List.length_mapIdx] at hi hj
    rw [List.getElem_mapIdx, List.getElem_mapIdx]
    have hapart : ∀ p ∈ [path.index i], ∀ q ∈ [path.index j], p.Apart q :=
      List.forall_mem_singleton.2 (List.forall_mem_singleton.2 (Path.apart_index (Nat.ne_of_lt hij)))
    exact (h i hi).differs (h j hj) (Or.inr hapart)

theorem spread_flatten_option {o : Option α} {f : α → List Finding} (h : ∀ a, Spread codes paths (f a)) :
    Spread codes paths (o.toList.map f).flatten := by
  cases o with
  | none => exact spread_nil
  | some a =>
    rw [Option.toList_some, List.map_singleton, List.flatten_singleton]
    exact h a

end Spread

end FlowCheck
