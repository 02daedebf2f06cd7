import FlowCheck.Proofs.Yaml.Scalars

/-!
# Trees in blocks

The scanner reads the text of a tree as the tokens of the tree (`Token.ofTree`), up to what comes behind it (`tells`).

* Where a node begins says how it is written and what the scanner knows before it (`Begins`).
* A block is a number of rows, each on its own line and all at one column.  The first one opens the block, if none is
  open there, and the others belong to it (`TellsRows.cons`, `TellsRows.block`).
* A row is an element behind a dash (`TellsRows.item`), or a field, whose key stands on the line of its value
  (`TellsRows.field`) or on one of its own (`TellsRows.longField`).
-/

namespace FlowCheck.Yaml

/-! ### Lines of a block -/

/-- The lines of a block behind its opening: every entry but the first one begins a line. -/
def rows (n : Nat) : List (List Char) → List Char
  | [] => []
  | [line] => Printer.endLine line
  | line :: next :: lines => Printer.endLine line ++ (Printer.spaces n ++ rows n (next :: lines))

/-- What stands before the first entry of a block. -/
def opening (n : Nat) : Printer.Place → List Char
  | .root => Printer.spaces n
  | .mark => [' ']
  | .key => '\n' :: Printer.spaces n

variable {cs : List Char} {c : Char} {n : Nat} {place : Printer.Place}

theorem spaces_rows (n : Nat) (line : List Char) (lines : List (List Char)) :
    Printer.spaces n ++ rows n (line :: lines) =
      ((line :: lines).map Printer.endLine).flatMap (Printer.spaces n ++ ·) := by
  induction lines generalizing line with
  | nil => simp [rows]
  | cons next lines ih =>
    rw [List.map_cons, List.flatMap_cons, ← ih next, rows, List.append_assoc]

theorem block_eq (place : Printer.Place) (n : Nat) (line : List Char) (lines : List (List Char)) :
    Printer.block place n (line :: lines) = opening n place ++ rows n (line :: lines) := by
  cases place with
  | root => exact (spaces_rows n line lines).symm
  | key => exact congrArg (List.cons '\n') (spaces_rows n line lines).symm
  | mark =>
    cases lines with
    | nil => simp [Printer.block, opening, rows]
    | cons next lines =>
      rw [rows, spaces_rows]
      simp [Printer.block, opening]

theorem isBreak_last_endLine (cs : List Char) : (Printer.endLine cs).getLast?.any Printer.isBreak = true := by
  unfold Printer.endLine
  split
  · assumption
  · rw [List.getLast?_concat]
    rfl

theorem endLine_eq_self (h : cs.getLast?.any Printer.isBreak = true) : Printer.endLine cs = cs := by
  rw [Printer.endLine, if_pos h]

theorem getLast?_append_any {pre : List Char} (h : cs.getLast?.any Printer.isBreak = true) :
    (pre ++ cs).getLast?.any Printer.isBreak = true := by
  cases hlast : cs.getLast? with
  | none =>
    rw [hlast] at h
    cases h
  | some c =>
    rw [hlast] at h
    rw [List.getLast?_append, hlast, Option.some_or, h]

theorem isBreak_last_rows (n : Nat) (line : List Char) (lines : List (List Char)) :
    (rows n (line :: lines)).getLast?.any Printer.isBreak = true := by
  induction lines generalizing line with
  | nil => exact isBreak_last_endLine line
  | cons next lines ih => exact getLast?_append_any (getLast?_append_any (ih next))

theorem endLine_block {lines : List (List Char)} (h : lines ≠ []) (place : Printer.Place) (n : Nat) :
    Printer.endLine (Printer.block place n lines) = opening n place ++ rows n lines := by
  obtain ⟨line, lines, rfl⟩ := List.exists_cons_of_ne_nil h
  rw [block_eq, endLine_eq_self (getLast?_append_any (isBreak_last_rows n line lines))]

/-! ### Tokens of a tree -/

mutual

/-- The tokens of a tree after its place: only a list under a key has no block of its own. -/
def Token.ofTree (place : Printer.Place) : Value → List Token
  | .list [] => [.listStart, .listEnd]
  | .object [] => [.mappingStart, .mappingEnd]
  | .list (v :: vs) =>
    match place with
    | .key => Token.ofItems (v :: vs)
    | _ => .blockListStart :: (Token.ofItems (v :: vs) ++ [.blockEnd])
  | .object (field :: fields) => .blockMappingStart :: (Token.ofFields (field :: fields) ++ [.blockEnd])
  | v => [.scalar (scalarOf v).1 (scalarOf v).2]

def Token.ofItems : List Value → List Token
  | [] => []
  | v :: vs => .entry :: (Token.ofTree .mark v ++ Token.ofItems vs)

def Token.ofFields : List (String × Value) → List Token
  | [] => []
  | (k, v) :: fields =>
    .key :: TokenState.textToken k :: .value ::
      ((if Printer.isSimpleKey k then Token.ofTree .key v else Token.ofTree .mark v) ++ Token.ofFields fields)

end

namespace TokenState

variable {done : List Token} {i : Int} {is : List Int} {k column n : Nat} {rest : List Char}
  {s : TokenState} {v : Value} {f : String × Value} {fs : List (String × Value)} {vs : List Value}

/-- Where a node begins in a block at column `i` whose indentation is `n`. -/
inductive Begins (done : List Token) (is : List Int) : Printer.Place → Nat → Int → TokenState → Nat → Prop
  | root : Begins done is .root 0 (-1) (between done (-1) is) 0
  | mark (n : Nat) : Begins done is .mark n n (between done n is) (n + 1)
  | key {n column : Nat} (h : n < column) : Begins done is .key n n (standing done n is false none) column

theorem inline_of_fills {text : List Char} {toks : List Token} (h : Begins done is place n i s column)
    (htext : text ≠ []) (hfills : Fills i (Printer.endLine text) toks) (hends : Ends i k rest) (l : Nat) :
    ∃ l', Reads ⟨s, ⟨l, column⟩, Printer.endLine (Printer.inline place text) ++ (Printer.spaces k ++ rest)⟩
      ⟨between (toks.reverse ++ done) i is, ⟨l', k⟩, rest⟩ := by
  have hspace : ∀ (s : TokenState) (column : Nat),
      Reads ⟨s, ⟨l, column⟩, Printer.endLine (' ' :: text) ++ (Printer.spaces k ++ rest)⟩
        ⟨s, ⟨l, column + 1⟩, Printer.endLine text ++ (Printer.spaces k ++ rest)⟩ := by
    intro s column
    have hline : Printer.endLine (' ' :: text) = [' '] ++ Printer.endLine text := endLine_append [' '] htext
    rw [hline]
    exact .space s l column _
  cases h with
  | root => exact hfills done is true l 0 k rest (by omega) (fun _ => by decide) hends
  | mark =>
    obtain ⟨l', hread⟩ := hfills done is true l (n + 2) k rest (by omega) (fun _ => by omega) hends
    exact ⟨l', (hspace _ _).trans hread⟩
  | key h =>
    obtain ⟨l', hread⟩ := hfills done is false l (column + 1) k rest (by omega) (fun h => Bool.noConfusion h) hends
    exact ⟨l', (hspace _ _).trans hread⟩

/-- The first line of a block is reached. -/
theorem Begins.reads_opening (h : Begins done is place n i s column) (inner : Nat)
    (hroot : place = .root → inner = 0) (hmark : place = .mark → inner = n + 2) (l : Nat) (cs : List Char) :
    ∃ l', Reads ⟨s, ⟨l, column⟩, opening inner place ++ cs⟩ ⟨between done i is, ⟨l', inner⟩, cs⟩ := by
  cases h with
  | root =>
    cases hroot rfl
    exact ⟨l, .refl _⟩
  | mark =>
    cases hmark rfl
    exact ⟨l, .space _ l (n + 1) cs⟩
  | key => exact ⟨l + 1, .newline (by simp) false done n is inner cs⟩

theorem node_mark (n : Nat) (v : Value) : ∃ cs, Printer.node .mark n v = ' ' :: cs := by
  cases v with
  | list vs =>
    cases vs with
    | nil => exact ⟨_, rfl⟩
    | cons v vs => exact ⟨_, block_eq .mark _ _ _⟩
  | object fields =>
    cases fields with
    | nil => exact ⟨_, rfl⟩
    | cons field fields => exact ⟨_, block_eq .mark _ _ _⟩
  | _ => exact ⟨_, rfl⟩

theorem node_key (n : Nat) (v : Value) : ∃ c cs, Printer.node .key n v = c :: cs ∧ (c = ' ' ∨ c = '\n') := by
  cases v with
  | list vs =>
    cases vs with
    | nil => exact ⟨' ', _, rfl, Or.inl rfl⟩
    | cons v vs => exact ⟨'\n', _, block_eq .key _ _ _, Or.inr rfl⟩
  | object fields =>
    cases fields with
    | nil => exact ⟨' ', _, rfl, Or.inl rfl⟩
    | cons field fields => exact ⟨'\n', _, block_eq .key _ _ _, Or.inr rfl⟩
  | _ => exact ⟨' ', _, rfl, Or.inl rfl⟩

theorem exists_endLine_cons (c : Char) (cs : List Char) : ∃ ds, Printer.endLine (c :: cs) = c :: ds := by
  unfold Printer.endLine
  split
  · exact ⟨_, rfl⟩
  · exact ⟨_, rfl⟩

/-- The text of a tree at a place is read as its tokens, up to what comes after it. -/
def Tells (v : Value) : Prop :=
  ∀ ⦃place : Printer.Place⦄ ⦃n k column : Nat⦄ ⦃i : Int⦄ ⦃is : List Int⦄ ⦃done : List Token⦄ ⦃s : TokenState⦄
    ⦃rest : List Char⦄, Begins done is place n i s column → Ends i k rest → ∀ l, ∃ l',
      Reads ⟨s, ⟨l, column⟩, Printer.endLine (Printer.node place n v) ++ (Printer.spaces k ++ rest)⟩
        ⟨between ((Token.ofTree place v).reverse ++ done) i is, ⟨l', k⟩, rest⟩

/-- The entries of a block are read, the first one of which may open the block. -/
def TellsRows (start : Token) (lines : Nat → List (List Char)) (toks : List Token) : Prop :=
  ∀ ⦃k column : Nat⦄ ⦃i : Int⦄ ⦃is is' : List Int⦄ ⦃done done' : List Token⦄ ⦃rest : List Char⦄,
    Opens start done i is column done' is' → Ends column k rest → ∀ l, ∃ l',
      Reads ⟨between done i is, ⟨l, column⟩, rows column (lines column) ++ (Printer.spaces k ++ rest)⟩
        ⟨between (toks.reverse ++ done') column is', ⟨l', k⟩, rest⟩

/-- One more entry before others. -/
theorem TellsRows.cons {start : Token} {line : Nat → List Char} {lines : Nat → List (List Char)}
    {toks more : List Token} (hfirst : TellsRows start (fun n => [line n]) toks) 
    (hmore : TellsRows start lines more) (hsolid : ∀ n, ∃ c cs, rows n (lines n) = c :: cs ∧ IsSolid c) :
    TellsRows start (fun n => line n :: lines n) (toks ++ more) := by
  intro k column i is is' done done' rest hopens hends l
  obtain ⟨c, cs, hcons, hc⟩ := hsolid column
  obtain ⟨next, others, hlines⟩ : ∃ next others, lines column = next :: others := by
    cases hlines : lines column with
    | nil =>
      rw [hlines] at hcons
      cases hcons
    | cons next others => exact ⟨next, others, rfl⟩
  -- the second row is a line that ends the first one
  have hbetween : Ends column column (rows column (lines column) ++ (Printer.spaces k ++ rest)) := by
    rw [hcons]
    exact Or.inr ⟨Int.le_refl _, c, _, rfl, hc⟩
  obtain ⟨l₁, hread⟩ := hfirst hopens hbetween l
  obtain ⟨l₂, hreads⟩ := hmore (.same rfl) hends l₁
  refine ⟨l₂, ?_⟩
  have hrows : rows column (line column :: lines column) ++ (Printer.spaces k ++ rest) =
      rows column [line column] ++
        (Printer.spaces column ++ (rows column (lines column) ++ (Printer.spaces k ++ rest))) := by
    rw [hlines, rows]
    simp only [rows, List.append_assoc]
  rw [hrows, List.reverse_append, List.append_assoc]
  exact hread.trans hreads

theorem TellsRows.item (hv : Tells v) :
    TellsRows .blockListStart (fun n => [Printer.dash ++ Printer.node .mark n v]) (.entry :: Token.ofTree .mark v) := by
  intro k column i is is' done done' rest hopens hends l
  obtain ⟨cs, hnode⟩ := node_mark column v
  obtain ⟨ds, hline⟩ := exists_endLine_cons ' ' cs
  obtain ⟨l', hread⟩ := hv (.mark column) hends l
  have hrows : rows column [Printer.dash ++ Printer.node .mark column v] =
      '-' :: Printer.endLine (Printer.node .mark column v) :=
    endLine_append ['-'] (by rw [hnode]; exact List.cons_ne_nil _ _)
  rw [hrows]
  rw [hnode, hline] at hread ⊢
  refine ⟨l', (Reads.dash hopens l _).trans ?_⟩
  rw [List.reverse_cons, List.append_assoc]
  exact hread

theorem endsWord_endLine_key (n : Nat) (v : Value) (cs : List Char) :
    endsWord (Printer.endLine (Printer.node .key n v) ++ cs) = true := by
  obtain ⟨c, ds, hnode, hc⟩ := node_key n v
  obtain ⟨es, hline⟩ := exists_endLine_cons c ds
  rw [hnode, hline]
  rcases hc with rfl | rfl <;> rfl

/-- A key on the line of its value. -/
theorem TellsRows.field (hk : Printer.isSimpleKey f.1 = true) (hv : Tells f.2) :
    TellsRows .blockMappingStart (fun n => [Printer.writeText (n + 2) f.1 ++ ':' :: Printer.node .key n f.2])
      (.key :: textToken f.1 :: .value :: Token.ofTree .key f.2) := by
  intro k column i is is' done done' rest hopens hends l
  have hscans := scans_text (n := column + 2) (Nat.succ_pos _) hk
  have hword := endsWord_endLine_key column f.2 (Printer.spaces k ++ rest)
  have hdeeper : column < column + (Printer.writeText (column + 2) f.1).length + 1 := by omega
  obtain ⟨l', hread⟩ := hv (.key hdeeper) hends l
  have hrows : rows column [Printer.writeText (column + 2) f.1 ++ ':' :: Printer.node .key column f.2] =
      Printer.writeText (column + 2) f.1 ++ ':' :: Printer.endLine (Printer.node .key column f.2) := by
    obtain ⟨c, ds, hnode, -⟩ := node_key column f.2
    have hvalue : Printer.endLine (':' :: c :: ds) = ':' :: Printer.endLine (c :: ds) :=
      endLine_append [':'] (List.cons_ne_nil _ _)
    rw [rows, hnode, endLine_append _ (List.cons_ne_nil _ _), hvalue]
  rw [hrows, List.append_assoc, List.cons_append]
  refine ⟨l', (Reads.key hopens hscans hword l).trans ?_⟩
  simpa using hread

/-- A key on a line of its own. -/
theorem TellsRows.longField (hv : Tells f.2) :
    TellsRows .blockMappingStart
      (fun n => [Printer.endLine ('?' :: ' ' :: Printer.writeText (n + 2) f.1) ++ Printer.spaces n ++
        ':' :: Printer.node .mark n f.2])
      (.key :: textToken f.1 :: .value :: Token.ofTree .mark f.2) := by
  intro k column i is is' done done' rest hopens hends l
  obtain ⟨cs, hnode⟩ := node_mark column f.2
  obtain ⟨ds, hline⟩ := exists_endLine_cons ' ' cs
  have hkeyLine : Printer.endLine ('?' :: ' ' :: Printer.writeText (column + 2) f.1) =
      '?' :: ' ' :: Printer.endLine (Printer.writeText (column + 2) f.1) :=
    endLine_append ['?', ' '] (writeText_ne_nil _ _)
  have hvalueLine : Printer.endLine (':' :: ' ' :: cs) = ':' :: ' ' :: ds := by
    rw [← hline]
    exact endLine_append [':'] (List.cons_ne_nil _ _)
  have hrows : rows column [Printer.endLine ('?' :: ' ' :: Printer.writeText (column + 2) f.1) ++
        Printer.spaces column ++ ':' :: Printer.node .mark column f.2] ++ (Printer.spaces k ++ rest) =
      '?' :: ' ' :: (Printer.endLine (Printer.writeText (column + 2) f.1) ++
        (Printer.spaces column ++ ':' :: ' ' :: (ds ++ (Printer.spaces k ++ rest)))) := by
    rw [rows, hnode, endLine_append _ (List.cons_ne_nil _ _), hkeyLine, hvalueLine]
    simp only [List.cons_append, List.append_assoc]
  have hcolon : Ends column column (':' :: ' ' :: (ds ++ (Printer.spaces k ++ rest))) :=
    Or.inr ⟨Int.le_refl _, ':', _, rfl, by decide⟩
  have hfills := fills_text (i := column) (n := column + 2) (by omega) f.1
  obtain ⟨l₁, hkey⟩ :=
    hfills (.key :: done') is' true l (column + 2) column _ (by omega) (fun _ => by omega) hcolon
  have hbegins : Begins (.value :: textToken f.1 :: .key :: done') is' .mark column column _ _ := .mark column
  obtain ⟨l₂, hvalue⟩ := hv hbegins hends l₁
  rw [hnode, hline] at hvalue
  rw [hrows]
  refine ⟨l₂, (Reads.question hopens l _).trans ((Reads.space _ l (column + 1) _).trans (hkey.trans ?_))⟩
  refine (Reads.colon (.same rfl) l₁ _).trans ?_
  simpa using hvalue

/-- The entries of a block of their own, which ends behind them. -/
theorem TellsRows.block {start : Token} {lines : Nat → List (List Char)} {toks : List Token}
    (hrows : TellsRows start lines toks) (inner : Nat) (hne : lines inner ≠ []) (h : Begins done is place n i s column)
    (hends : Ends i k rest) (hroot : place = .root → inner = 0) (hmark : place = .mark → inner = n + 2)
    (hdeeper : i < inner) (l : Nat) :
    ∃ l', Reads
      ⟨s, ⟨l, column⟩, Printer.endLine (Printer.block place inner (lines inner)) ++ (Printer.spaces k ++ rest)⟩
      ⟨between ((start :: (toks ++ [.blockEnd])).reverse ++ done) i is, ⟨l', k⟩, rest⟩ := by
  obtain ⟨l₁, hopening⟩ :=
    h.reads_opening inner hroot hmark l (rows inner (lines inner) ++ (Printer.spaces k ++ rest))
  obtain ⟨l₂, hread⟩ := hrows (.deeper hdeeper) (hends.mono (Int.le_of_lt hdeeper)) l₁
  have htoks : (start :: (toks ++ [.blockEnd])).reverse ++ done = .blockEnd :: (toks.reverse ++ start :: done) := by
    simp
  rw [endLine_block hne, List.append_assoc, htoks]
  exact ⟨l₂, hopening.trans (hread.trans (.closeBlock hdeeper (by omega) hends))⟩

theorem tells_scalar (hv : v.IsToken) : Tells v := by
  intro place n k column i is done s rest h hends l
  have hn : (max i 0).toNat + 2 = n + 2 := by
    cases h <;> simp
  have hfills := fills_scalar hv hn
  have hne : Printer.scalar (n + 2) v ≠ [] := scalar_ne_nil hv
  have htext : Printer.node place n v = Printer.inline place (Printer.scalar (n + 2) v) := by
    cases v with
    | list vs => exact hv.elim
    | object fields => exact hv.elim
    | _ => rfl
  have htokens : Token.ofTree place v = [.scalar (scalarOf v).1 (scalarOf v).2] := by
    cases v with
    | list vs => exact hv.elim
    | object fields => exact hv.elim
    | _ => rfl
  rw [htext, htokens]
  exact inline_of_fills h hne hfills hends l

theorem tells_emptyList : Tells (.list []) := fun _ _ _ _ _ _ _ _ _ h hends l =>
  inline_of_fills h (List.cons_ne_nil _ _) fills_emptyList hends l

theorem tells_emptyObject : Tells (.object []) := fun _ _ _ _ _ _ _ _ _ h hends l =>
  inline_of_fills h (List.cons_ne_nil _ _) fills_emptyObject hends l

theorem TellsRows.list
    (hrows : TellsRows .blockListStart (fun n => Printer.nodeItems n (v :: vs)) (Token.ofItems (v :: vs))) :
    Tells (.list (v :: vs)) := by
  intro place n k column i is done s rest h hends l
  have hne : ∀ inner, Printer.nodeItems inner (v :: vs) ≠ [] := fun _ => List.cons_ne_nil _ _
  cases h with
  | root => exact hrows.block 0 (hne 0) .root hends (fun _ => rfl) (fun h => nomatch h) (by decide) l
  | mark => exact hrows.block (n + 2) (hne _) (.mark n) hends (fun h => nomatch h) (fun _ => rfl) (by omega) l
  | key h =>
    -- the elements stand at the column of the key, in its block
    have hbegins : Begins done is .key n n (standing done n is false none) column := .key h
    have hnode : Printer.node .key n (.list (v :: vs)) = Printer.block .key n (Printer.nodeItems n (v :: vs)) := rfl
    obtain ⟨l₁, hopening⟩ := hbegins.reads_opening n (fun h => nomatch h) (fun h => nomatch h) l
      (rows n (Printer.nodeItems n (v :: vs)) ++ (Printer.spaces k ++ rest))
    obtain ⟨l₂, hread⟩ := hrows (.same rfl) hends l₁
    rw [hnode, endLine_block (hne n), List.append_assoc]
    exact ⟨l₂, hopening.trans hread⟩

theorem TellsRows.object
    (hrows : TellsRows .blockMappingStart (fun n => Printer.nodeFields n (f :: fs)) (Token.ofFields (f :: fs))) :
    Tells (.object (f :: fs)) := by
  intro place n k column i is done s rest h hends l
  have hne : ∀ inner, Printer.nodeFields inner (f :: fs) ≠ [] := fun _ => List.cons_ne_nil _ _
  cases h with
  | root => exact hrows.block 0 (hne 0) .root hends (fun _ => rfl) (fun h => nomatch h) (by decide) l
  | mark => exact hrows.block (n + 2) (hne _) (.mark n) hends (fun h => nomatch h) (fun _ => rfl) (by omega) l
  | key h => exact hrows.block (n + 2) (hne _) (.key h) hends (fun h => nomatch h) (fun h => nomatch h) (by omega) l

/-- The entry of a field. -/
def fieldLine (f : String × Value) (n : Nat) : List Char :=
  if Printer.isSimpleKey f.1 then Printer.writeText (n + 2) f.1 ++ ':' :: Printer.node .key n f.2
  else
    Printer.endLine ('?' :: ' ' :: Printer.writeText (n + 2) f.1) ++ Printer.spaces n ++ ':' :: Printer.node .mark n f.2

theorem fieldLine_solid (f : String × Value) (n : Nat) : ∃ c cs, fieldLine f n = c :: cs ∧ IsSolid c := by
  unfold fieldLine
  split
  · rename_i hk
    obtain ⟨c, cs, hcons, hc⟩ := (scans_text (n := n + 2) (Nat.succ_pos _) hk).solid
    rw [hcons]
    exact ⟨c, _, rfl, hc⟩
  · obtain ⟨ds, hline⟩ := exists_endLine_cons '?' (' ' :: Printer.writeText (n + 2) f.1)
    rw [hline]
    exact ⟨'?', _, rfl, by decide⟩

theorem rows_solid {line : List Char} (h : ∃ c cs, line = c :: cs ∧ IsSolid c) (n : Nat) (lines : List (List Char)) :
    ∃ c cs, rows n (line :: lines) = c :: cs ∧ IsSolid c := by
  obtain ⟨c, cs, rfl, hc⟩ := h
  obtain ⟨ds, hline⟩ := exists_endLine_cons c cs
  cases lines with
  | nil => exact ⟨c, ds, hline, hc⟩
  | cons next lines => exact ⟨c, ds ++ (Printer.spaces n ++ rows n (next :: lines)), by rw [rows, hline]; rfl, hc⟩

theorem tellsRows_field (hv : Tells f.2) :
    TellsRows .blockMappingStart (fun n => [fieldLine f n]) (Token.ofFields [f]) := by
  obtain ⟨k, v⟩ := f
  simp only [Token.ofFields, fieldLine, List.append_nil]
  by_cases hk : Printer.isSimpleKey k = true
  · simp only [if_pos hk]
    exact TellsRows.field (f := (k, v)) hk hv
  · simp only [if_neg hk]
    exact TellsRows.longField (f := (k, v)) hv

theorem Token.ofFields_cons (f : String × Value) (fs : List (String × Value)) :
    Token.ofFields (f :: fs) = Token.ofFields [f] ++ Token.ofFields fs := by
  obtain ⟨k, v⟩ := f
  simp [Token.ofFields]

mutual

/-- Every tree without doubles is read as its tokens. -/
theorem tells : (v : Value) → v.FloatFree → Tells v
  | .null, _ | .bool _, _ | .int _, _ | .string _, _ => tells_scalar trivial
  | .float _, h => h.elim
  | .list [], _ => tells_emptyList
  | .list (v :: vs), h => (tells_items (v :: vs) h (List.cons_ne_nil _ _)).list
  | .object [], _ => tells_emptyObject
  | .object (f :: fs), h => (tells_fields (f :: fs) h (List.cons_ne_nil _ _)).object

theorem tells_items : (vs : List Value) → Value.FloatFreeItems vs → vs ≠ [] →
    TellsRows .blockListStart (fun n => Printer.nodeItems n vs) (Token.ofItems vs)
  | [], _, hne => absurd rfl hne
  | [v], h, _ => by
    have hitem := TellsRows.item (tells v h.1)
    simpa [Token.ofItems, Printer.nodeItems] using hitem
  | v :: w :: vs, h, _ =>
    (TellsRows.item (tells v h.1)).cons (tells_items (w :: vs) h.2 (List.cons_ne_nil _ _)) fun n =>
      rows_solid ⟨'-', _, rfl, by decide⟩ n (Printer.nodeItems n vs)

theorem tells_fields : (fs : List (String × Value)) → Value.FloatFreeFields fs → fs ≠ [] →
    TellsRows .blockMappingStart (fun n => Printer.nodeFields n fs) (Token.ofFields fs)
  | [], _, hne => absurd rfl hne
  | [(key, v)], h, _ => tellsRows_field (f := (key, v)) (tells v h.1)
  | (key, v) :: g :: fs, h, _ => by
    have hfield := tellsRows_field (f := (key, v)) (tells v h.1)
    have hmore := tells_fields (g :: fs) h.2 (List.cons_ne_nil _ _)
    have hcons := hfield.cons hmore fun n => rows_solid (fieldLine_solid g n) n (Printer.nodeFields n fs)
    rw [← Token.ofFields_cons] at hcons
    exact hcons

end

end TokenState

/-- The text of a mapping begins with its first key. -/
theorem exists_text_object {key : String} (hkey : Printer.isSimpleKey key = true) (v : Value)
    (fs : List (String × Value)) :
    ∃ cs, (text (.object ((key, v) :: fs))).toList = Printer.writeText 2 key ++ ':' :: cs := by
  obtain ⟨cs, hline⟩ := TokenState.exists_endLine_cons ':' (Printer.node .key 0 v)
  have hfirst : Printer.endLine (TokenState.fieldLine (key, v) 0) = Printer.writeText 2 key ++ ':' :: cs := by
    rw [TokenState.fieldLine, if_pos hkey, endLine_append _ (List.cons_ne_nil _ _), hline]
  have hblock : (text (.object ((key, v) :: fs))).toList =
      rows 0 (TokenState.fieldLine (key, v) 0 :: Printer.nodeFields 0 fs) := by
    rw [text, String.toList_ofList]
    exact endLine_block (List.cons_ne_nil _ _) .root 0
  rw [hblock]
  cases fs with
  | nil => exact ⟨cs, hfirst⟩
  | cons f fs =>
    refine ⟨cs ++ (Printer.spaces 0 ++ rows 0 (Printer.nodeFields 0 (f :: fs))), ?_⟩
    rw [← List.cons_append, ← List.append_assoc, ← hfirst]
    rfl

end FlowCheck.Yaml
