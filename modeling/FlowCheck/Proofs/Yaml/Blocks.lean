import FlowCheck.Proofs.Yaml.Steps

/-!
# Blocks of YAML

The scanner outside brackets (`standing`): between two tokens it knows the blocks that are open, by their columns, and
perhaps a key.

* A line that is indented less ends the blocks that are deeper (`Reads.closeBlock`); what comes behind a node is such a
  line, or the end of the text (`Ends`).
* A mark opens a block where it stands deeper than the innermost one, and else belongs to that one (`Opens`,
  `Reads.dash`, `Reads.question`, `Reads.colon`).  A key does so when its colon is read (`Reads.key`).
* Scalars come in two kinds: those on one line, which may be keys (`Scans`), and those that fill the rest of their line
  and perhaps more lines (`Fills`).  Which characters are such scalars is the matter of other modules.
-/

namespace FlowCheck.Yaml.TokenState

variable {c : Char} {cs rest : List Char} {p : Place} {s : TokenState} {done done' : List Token} {i j : Int}
  {is is' : List Int} {start tok : Token} {held : Option OpenKey} {b : Bool} {column k l : Nat}

/-- Between two tokens outside brackets. -/
def standing (done : List Token) (indent : Int) (indents : List Int) (keyAllowed : Bool) (openKey : Option OpenKey) :
    TokenState :=
  { tokens := done, count := done.length, indent, indents, keyAllowed, openKey }

/-- Where an entry or a value may begin. -/
def between (done : List Token) (indent : Int) (indents : List Int) : TokenState :=
  standing done indent indents true none

/-! ### Ends of blocks -/

theorem closeBlocks_of_lt {column : Int} (h : column < j) :
    (between done j (i :: is)).closeBlocks column = (between (.blockEnd :: done) i is).closeBlocks column := by
  have hdeeper : deeperBlocks column j (i :: is) =
      ((deeperBlocks column i is).1 + 1, (deeperBlocks column i is).2) := by
    rw [deeperBlocks, if_pos h]
  have hinner : (between done j (i :: is)).inFlow = false := rfl
  have houter : (between (.blockEnd :: done) i is).inFlow = false := rfl
  simp only [closeBlocks, hinner, houter, Bool.false_eq_true, if_false]
  simp only [between, standing, hdeeper, List.length_cons, List.replicate_succ', List.append_assoc,
    List.singleton_append, Nat.add_assoc, Nat.add_comm 1]

theorem closeBlocks_of_le {column : Int} (h : s.indent ≤ column) : s.closeBlocks column = s := by
  have hdeeper : deeperBlocks column s.indent s.indents = (0, s.indent, s.indents) := by
    cases s.indents with
    | nil => rfl
    | cons _ _ => rw [deeperBlocks, if_neg (by omega)]
  unfold closeBlocks
  split
  · rfl
  · rw [hdeeper]
    rfl

theorem closeBlocks_closeBlocks {m n : Int} (h : n ≤ m) :
    ((between done i is).closeBlocks m).closeBlocks n = (between done i is).closeBlocks n := by
  induction is generalizing done i with
  | nil => rfl
  | cons outer is ih =>
    rcases Int.lt_or_le m i with hlt | hle
    · rw [closeBlocks_of_lt hlt, closeBlocks_of_lt (Int.lt_of_le_of_lt h hlt), ih]
    · rw [closeBlocks_of_le (s := between done i (outer :: is)) hle]

/-- At the end of the text all blocks end. -/
theorem scan_nil (fuel : Nat) (p : Place) : scan (fuel + 1) (between done i is) p [] =
    .ok (.streamEnd :: ((between done i is).closeBlocks (-1)).tokens).reverse := by
  have hprepare : (between done i is).prepare p [] = .ok ((between done i is).closeBlocks p.column, p, []) := rfl
  have hclose : ((between done i is).closeBlocks p.column).closeBlocks (-1) = (between done i is).closeBlocks (-1) :=
    closeBlocks_closeBlocks (by omega)
  have hkey : ((between done i is).closeBlocks (-1)).openKey = none := rfl
  rw [scan_succ, hprepare]
  simp only [Except.bind, boundary, hclose, dropKey, hkey]
  rfl

/-- What comes behind a node: the end of the text, or a line that is indented no deeper than the block around it. -/
def Ends (i : Int) (k : Nat) (rest : List Char) : Prop :=
  (k = 0 ∧ rest = []) ∨ (k : Int) ≤ i ∧ ∃ c cs, rest = c :: cs ∧ IsSolid c

theorem Ends.mono (h : Ends i k rest) (hij : i ≤ j) : Ends j k rest := by
  rcases h with h | ⟨hk, h⟩
  · exact Or.inl h
  · exact Or.inr ⟨Int.le_trans hk hij, h⟩

/-- Before a token that stands deep enough nothing happens. -/
theorem prepare_standing (hheld : ∀ k ∈ held, k.isStale ⟨l, column⟩ = false) (h : i ≤ column) (hc : IsSolid c)
    (cs : List Char) :
    (standing done i is b held).prepare ⟨l, column⟩ (c :: cs) =
      .ok (standing done i is b held, ⟨l, column⟩, c :: cs) := by
  have hclose : (standing done i is b held).closeBlocks column = standing done i is b held := closeBlocks_of_le h
  rw [prepare_solid (List.forall_mem_nil _) hheld hc, hclose]

theorem prepare_between (h : i ≤ column) (hc : IsSolid c) (cs : List Char) :
    (between done i is).prepare ⟨l, column⟩ (c :: cs) = .ok (between done i is, ⟨l, column⟩, c :: cs) :=
  prepare_standing (by simp) h hc cs

/-- The block of a node ends with its last line. -/
theorem Reads.closeBlock (hij : i < j) (hj : 0 ≤ j) (h : Ends i k rest) :
    Reads ⟨between done j (i :: is), ⟨l, k⟩, rest⟩ ⟨between (.blockEnd :: done) i is, ⟨l, k⟩, rest⟩ := by
  -- both cursors end the same blocks before the next token, the first one its own before them
  refine ⟨0, Nat.le_of_eq (Nat.zero_add _), fun fuel => ?_⟩
  rcases h with ⟨rfl, rfl⟩ | ⟨hk, c, cs, rfl, hc⟩
  · simp only [Nat.add_zero, scan_nil]
    rw [closeBlocks_of_lt (by omega)]
  · have hkj : (k : Int) < j := Int.lt_of_le_of_lt hk hij
    have hsolid : ∀ s : TokenState, s.outerKeys = [] → s.openKey = none →
        s.prepare ⟨l, k⟩ (c :: cs) = .ok (s.closeBlocks k, ⟨l, k⟩, c :: cs) := fun s houter hkey =>
      prepare_solid (by simp [houter]) (by simp [hkey]) hc cs
    rw [Nat.add_zero, scan_succ, scan_succ, hsolid _ rfl rfl, hsolid _ rfl rfl, closeBlocks_of_lt hkj]

/-! ### Marks -/

/-- Where an entry begins: at a column that is deeper than the innermost block it opens a block. -/
inductive Opens (start : Token) (done : List Token) (i : Int) (is : List Int) : Nat → List Token → List Int → Prop
  | deeper {column : Nat} (h : i < column) : Opens start done i is column (start :: done) (i :: is)
  | same {column : Nat} (h : i = column) : Opens start done i is column done is

theorem Opens.le (h : Opens start done i is column done' is') : i ≤ column := by
  cases h with
  | deeper h => exact Int.le_of_lt h
  | same h => exact Int.le_of_eq h

theorem Opens.openBlock (h : Opens start done i is column done' is') :
    (between done i is).openBlock column (between done i is).count start = between done' column is' := by
  cases h with
  | deeper h => simp [TokenState.openBlock, between, standing, inFlow, h, insert]
  | same h => simp [TokenState.openBlock, between, standing, inFlow, h]

theorem Opens.entry (h : Opens .blockListStart done i is column done' is') (l : Nat) :
    (between done i is).entry ⟨l, column⟩ = .ok (between (.entry :: done') column is') := by
  simp only [TokenState.entry, h.openBlock]
  rfl

theorem Opens.questionMark (h : Opens .blockMappingStart done i is column done' is') (l : Nat) :
    (between done i is).questionMark ⟨l, column⟩ = .ok (between (.key :: done') column is') := by
  simp only [TokenState.questionMark, h.openBlock]
  rfl

theorem Opens.colon (h : Opens .blockMappingStart done i is column done' is') (l : Nat) :
    (between done i is).colon ⟨l, column⟩ = .ok (between (.value :: done') column is') := by
  have hkey : (between done i is).openKey = none := rfl
  simp only [TokenState.colon, hkey, h.openBlock]
  rfl

theorem next_dash (s : TokenState) (p : Place) (cs : List Char) :
    s.next p '-' (' ' :: cs) = (s.entry p).map fun s => (s, p.right 1, ' ' :: cs) := by
  simp [next, isMarker, endsWord, isSpace]

theorem next_question (s : TokenState) (p : Place) (cs : List Char) :
    s.next p '?' (' ' :: cs) = (s.questionMark p).map fun s => (s, p.right 1, ' ' :: cs) := by
  simp [next, isMarker, endsWord, isSpace]

theorem next_colon (h : endsWord rest = true) (s : TokenState) (p : Place) :
    s.next p ':' rest = (s.colon p).map fun s => (s, p.right 1, rest) := by
  simp [next, isMarker, h]

theorem Reads.dash (h : Opens .blockListStart done i is column done' is') (l : Nat) (cs : List Char) :
    Reads ⟨between done i is, ⟨l, column⟩, '-' :: ' ' :: cs⟩
      ⟨between (.entry :: done') column is', ⟨l, column + 1⟩, ' ' :: cs⟩ := by
  refine .of_next (prepare_between h.le (by decide) _) ?_ (Nat.lt_succ_self _)
  rw [next_dash, h.entry]
  rfl

theorem Reads.question (h : Opens .blockMappingStart done i is column done' is') (l : Nat) (cs : List Char) :
    Reads ⟨between done i is, ⟨l, column⟩, '?' :: ' ' :: cs⟩
      ⟨between (.key :: done') column is', ⟨l, column + 1⟩, ' ' :: cs⟩ := by
  refine .of_next (prepare_between h.le (by decide) _) ?_ (Nat.lt_succ_self _)
  rw [next_question, h.questionMark]
  rfl

/-- The colon behind a key that has a line of its own. -/
theorem Reads.colon (h : Opens .blockMappingStart done i is column done' is') (l : Nat) (cs : List Char) :
    Reads ⟨between done i is, ⟨l, column⟩, ':' :: ' ' :: cs⟩
      ⟨between (.value :: done') column is', ⟨l, column + 1⟩, ' ' :: cs⟩ := by
  refine .of_next (prepare_between h.le (by decide) _) ?_ (Nat.lt_succ_self _)
  rw [next_colon rfl, h.colon]
  rfl

/-! ### Keys -/

/-- The key that may begin at a place. -/
def keyAt (b : Bool) (done : List Token) (i : Int) (p : Place) : Option OpenKey :=
  if b then some ⟨done.length, p, i == p.column⟩ else none

/-- Deeper than the block around it no key is required. -/
theorem of_mem_keyAt {k : OpenKey} (hb : b = true → i ≠ p.column) (hk : k ∈ keyAt b done i p) :
    k.isRequired = false ∧ k.place = p := by
  cases b with
  | false => cases hk
  | true =>
    cases hk
    exact ⟨by simpa using hb rfl, rfl⟩

theorem content_standing (b : Bool) (done : List Token) (i : Int) (is : List Int) (p : Place) (tok : Token) :
    (standing done i is b none).content p tok = .ok (standing (tok :: done) i is false (keyAt b done i p)) := by
  cases b <;> rfl

/-- A scalar on one line, with the token that it makes when a colon follows. -/
structure Scans (text : List Char) (tok : Token) : Prop where
  solid : ∃ c cs, text = c :: cs ∧ IsSolid c
  length : text.length ≤ 1024
  next : ∀ (s : TokenState) (p : Place) (c : Char) (cs rest : List Char), text = c :: cs → s.inFlow = false →
    endsWord rest = true → s.next p c (cs ++ ':' :: rest) =
      (s.content p tok).map fun s => ({ s with keyAllowed := false }, p.right text.length, ':' :: rest)

/-- The colon shows that the scalar before it is a key, and the block that it opens begins before the key. -/
theorem colon_keyAt (h : Opens .blockMappingStart done i is column done' is') (tok : Token) (l : Nat) (p : Place) :
    (standing (tok :: done) i is false (keyAt true done i ⟨l, column⟩)).colon p =
      .ok (standing (.value :: tok :: .key :: done') column is' false none) := by
  have hone : done.length + 1 - done.length = 1 := by omega
  have htwo : done.length + 1 + 1 - done.length = 2 := by omega
  cases h with
  | deeper h =>
    simp only [TokenState.colon, standing, keyAt, insert, TokenState.openBlock, inFlow, push, h, List.length_cons, hone,
      htwo, List.isEmpty_nil, Bool.not_true, Bool.not_false, decide_true, Bool.and_self, if_true]
    rfl
  | same h =>
    subst h
    have hlt : ¬(column : Int) < column := Int.lt_irrefl _
    simp only [TokenState.colon, standing, keyAt, insert, TokenState.openBlock, inFlow, push, hlt, List.length_cons,
      hone, List.isEmpty_nil, Bool.not_true, Bool.not_false, decide_false, Bool.and_false, Bool.false_eq_true, if_true,
      if_false]
    rfl

section Key

variable {text : List Char} (h : Opens .blockMappingStart done i is column done' is')

include h

theorem Reads.beforeColon (htext : Scans text tok) (hrest : endsWord rest = true) (l : Nat) :
    Reads ⟨between done i is, ⟨l, column⟩, text ++ ':' :: rest⟩
      ⟨standing (tok :: done) i is false (keyAt true done i ⟨l, column⟩), ⟨l, column + text.length⟩, ':' :: rest⟩ := by
  obtain ⟨c, cs, hcons, hc⟩ := htext.solid
  have hcontent : (between done i is).content ⟨l, column⟩ tok =
      .ok (standing (tok :: done) i is false (keyAt true done i ⟨l, column⟩)) :=
    content_standing true done i is ⟨l, column⟩ tok
  have hnext := htext.next (between done i is) ⟨l, column⟩ c cs rest hcons rfl hrest
  rw [hcontent] at hnext
  rw [hcons, List.cons_append]
  refine .of_next (prepare_between h.le hc _) (hnext.trans ?_) ?_
  · rw [hcons]
    rfl
  · simp only [List.length_cons, List.length_append]
    omega

theorem Reads.behindKey {n : Nat} (hn : n ≤ 1024) (hrest : endsWord rest = true) (tok : Token) (l : Nat) :
    Reads ⟨standing (tok :: done) i is false (keyAt true done i ⟨l, column⟩), ⟨l, column + n⟩, ':' :: rest⟩
      ⟨standing (.value :: tok :: .key :: done') column is' false none, ⟨l, column + n + 1⟩, rest⟩ := by
  have hle := h.le
  have hfresh : ∀ k ∈ keyAt true done i ⟨l, column⟩, k.isStale ⟨l, column + n⟩ = false := by
    rintro _ ⟨⟩
    simp only [OpenKey.isStale, Bool.or_eq_false_iff, decide_eq_false_iff_not]
    omega
  refine .of_next (prepare_standing hfresh (by omega) (by decide) rest) ?_ (Nat.lt_succ_self _)
  rw [next_colon hrest, colon_keyAt h]
  rfl

/-- A key on the line of its value. -/
theorem Reads.key (htext : Scans text tok) (hrest : endsWord rest = true) (l : Nat) :
    Reads ⟨between done i is, ⟨l, column⟩, text ++ ':' :: rest⟩
      ⟨standing (.value :: tok :: .key :: done') column is' false none, ⟨l, column + text.length + 1⟩, rest⟩ :=
  (Reads.beforeColon h htext hrest l).trans (Reads.behindKey h htext.length hrest tok l)

end Key

/-! ### Scalars -/

/-- The line behind a scalar ends. -/
theorem Reads.newline (hheld : ∀ k ∈ held, k.isRequired = false ∧ k.place.line ≤ p.line) (b : Bool) (done : List Token)
    (i : Int) (is : List Int) (k : Nat) (rest : List Char) :
    Reads ⟨standing done i is b held, p, '\n' :: (Printer.spaces k ++ rest)⟩
      ⟨between done i is, ⟨p.line + 1, k⟩, rest⟩ := by
  refine .of_prepare ?_ (by simp only [List.length_cons, List.length_append]; omega)
  rw [prepare_newline rfl, prepare_spaces, Place.right_column, prepare_drop rfl]
  · rfl
  · exact fun k hk => ⟨(hheld k hk).1, Nat.lt_succ_of_le (hheld k hk).2⟩

/-- A scalar has ended with its line. -/
theorem Reads.drop (hheld : ∀ k ∈ held, k.isRequired = false ∧ k.place.line < p.line) (done : List Token) (i : Int)
    (is : List Int) (rest : List Char) :
    Reads ⟨standing done i is true held, p, rest⟩ ⟨between done i is, p, rest⟩ :=
  .of_prepare (prepare_drop rfl hheld rest) (Nat.le_refl _)

/-- In a block at column `i`, the text fills the rest of its line, and perhaps more lines, and makes some tokens.  A
key may begin with it only deeper in the block. -/
def Fills (i : Int) (text : List Char) (tokens : List Token) : Prop :=
  ∀ (done : List Token) (is : List Int) (b : Bool) (l column k : Nat) (rest : List Char),
    i ≤ column → (b = true → i ≠ column) → Ends i k rest →
      ∃ l', Reads ⟨standing done i is b none, ⟨l, column⟩, text ++ (Printer.spaces k ++ rest)⟩
        ⟨between (tokens.reverse ++ done) i is, ⟨l', k⟩, rest⟩

theorem prepare_scalar (h : i ≤ column) (hc : IsSolid c) (cs : List Char) :
    (standing done i is b none).prepare ⟨l, column⟩ (c :: cs) =
      .ok (standing done i is b none, ⟨l, column⟩, c :: cs) :=
  prepare_standing (by simp) h hc cs

/-- A scalar with an end of its own fills its line. -/
theorem Fills.of_next (hc : IsSolid c)
    (hnext : ∀ (s : TokenState) (p : Place) (rest : List Char), ∃ p' : Place, p.line ≤ p'.line ∧
      s.next p c (cs ++ '\n' :: rest) = (s.content p tok).map fun s => (s, p', '\n' :: rest)) :
    Fills i (c :: cs ++ ['\n']) [tok] := by
  intro done is b l column k rest hcolumn hb hends
  obtain ⟨p', hline, hnext⟩ := hnext (standing done i is b none) ⟨l, column⟩ (Printer.spaces k ++ rest)
  rw [content_standing] at hnext
  have hkey : ∀ k ∈ keyAt b done i ⟨l, column⟩, k.isRequired = false ∧ k.place.line ≤ p'.line := by
    intro k hk
    obtain ⟨hrequired, hplace⟩ := of_mem_keyAt hb hk
    rw [hplace]
    exact ⟨hrequired, hline⟩
  have htext : c :: cs ++ ['\n'] ++ (Printer.spaces k ++ rest) =
      c :: (cs ++ '\n' :: (Printer.spaces k ++ rest)) := by
    simp
  have hread : Reads ⟨standing done i is b none, ⟨l, column⟩, c :: (cs ++ '\n' :: (Printer.spaces k ++ rest))⟩
      ⟨standing (tok :: done) i is false (keyAt b done i ⟨l, column⟩), p', '\n' :: (Printer.spaces k ++ rest)⟩ :=
    .of_next (prepare_scalar hcolumn hc _) hnext (by simp only [List.length_cons, List.length_append]; omega)
  rw [htext]
  exact ⟨p'.line + 1, hread.trans (.newline hkey false (tok :: done) i is k rest)⟩

end FlowCheck.Yaml.TokenState
