import NovelScript.Proofs.Reduction.Trees
import NovelScript.Proofs.Source.Reader

/-!
# Round trip — the reader undoes source text

The text of a complete tree reads back as the outline of the tree. Two statements are proved
together, one node at a time (`Reads`): as an operand, in brackets if it is binary, a node is read
whenever its text is followed by something that cannot go on with an operand; as a whole, it is read
whenever its text is followed by the end, a closing bracket or a comma. Both also say how an operand
begins, which is what keeps an operator from being read too long and a sign from being read as a
negation.

## What is proved

`read_source`: the text of a tree whose strings have no quote and whose variables have a mark of
`@` or `$` and no declared name reads back as its outline.
-/

set_option autoImplicit false

namespace NovelScript.Source

open Node

/-- The text of a node as an operand. -/
def operandText (node : Node) : List Char := (bracketsIf node.isBinary node.source).toList

/-- A place that source text shows: its mode is one of two, and its variable is in the table. -/
def Shown (table : VariableTable) (place : Place) : Prop :=
  (place.mode = 0x40 ∨ place.mode = 0x24) ∧ place.var ∈ table.toList

/-- An operand that can be read back: a string has no quote, a variable is shown, and the words of
keywords and whole strings do not occur. -/
def Legible (table : VariableTable) : Node → Prop
  | .text s => '"' ∉ s.toList
  | .raw _ | .keyword _ => False
  | .reference place | .access _ place => Shown table place
  | _ => True

/-- What follows an operand: the end, or a character that neither goes on with a word nor opens
indices. -/
def Ends (rest : List Char) : Prop := ∀ c ∈ rest.head?, isWordChar c = false ∧ c ≠ '('

/-- What follows a whole expression: the end, a closing bracket or a comma. -/
def Closes (rest : List Char) : Prop := ∀ c ∈ rest.head?, c = ')' ∨ c = ','

/-- How an operand begins: with no character that makes an operator longer, and not as a negated
arithmetic node does. -/
def Begins (cs : List Char) : Prop :=
  ∃ c rest, cs = c :: rest ∧ c ≠ '=' ∧ c ≠ '&' ∧ c ≠ '|' ∧ c ≠ ')' ∧
    (c = '-' → ∃ d more, rest = d :: more ∧ d ≠ '(')

/-- No operand goes on with what closes an expression. -/
theorem Closes.ends {rest : List Char} (h : Closes rest) : Ends rest := by
  intro c hc
  rcases h c hc with rfl | rfl <;> exact ⟨by decide, by decide⟩

/-- What ends an operand ends a word. -/
theorem Ends.word {rest : List Char} (h : Ends rest) : EndsWord rest := fun c hc => (h c hc).1

/-- What begins an operand begins a longer text. -/
theorem Begins.append {cs : List Char} (h : Begins cs) (more : List Char) :
    Begins (cs ++ more) := by
  obtain ⟨c, rest, rfl, equal, and, or, close, sign⟩ := h
  refine ⟨c, rest ++ more, rfl, equal, and, or, close, fun hc => ?_⟩
  obtain ⟨d, rest, rfl, other⟩ := sign hc
  exact ⟨d, rest ++ more, rfl, other⟩

/-- Most characters begin an operand, whatever follows them. -/
theorem begins_cons {c : Char} {rest : List Char} (h : c ∉ ['=', '&', '|', ')', '-']) :
    Begins (c :: rest) := by
  simp only [List.mem_cons, List.not_mem_nil, or_false, not_or] at h
  obtain ⟨equal, and, or, close, sign⟩ := h
  exact ⟨c, rest, rfl, equal, and, or, close, fun hc => absurd hc sign⟩

/-! ## Operators -/

/-- An operator in front of an operand is read, and no more than it. -/
theorem readOperator_symbol (op : BinaryOp) {cs : List Char} (h : Begins cs) :
    readOperator (op.symbol.toList ++ cs) = some (op, cs) := by
  obtain ⟨c, rest, rfl, equal, and, or, -, -⟩ := h
  rcases op with op | op | op <;> cases op <;>
    simp [BinaryOp.symbol, ArithmeticOp.symbol, RelationalOp.symbol, LogicalOp.symbol,
      readOperator, equal, and, or]

/-- There is no operator where an expression ends. -/
theorem readOperator_closes {rest : List Char} (h : Closes rest) : readOperator rest = none := by
  cases rest with
  | nil => rfl
  | cons c rest => rcases h c rfl with rfl | rfl <;> rfl

/-- No operand goes on with an operator. -/
theorem ends_symbol (op : BinaryOp) (cs : List Char) : Ends (op.symbol.toList ++ cs) := by
  rcases op with op | op | op <;> cases op <;> intro c hc <;> cases hc <;>
    exact ⟨by decide, by decide⟩

/-! ## Places and numbers -/

variable {table : VariableTable}

/-- The text of a place is its mark and the name of its variable. -/
theorem text_toList (place : Place) :
    place.text.toList = place.mark :: place.var.displayName.toList := by
  rw [Place.text, String.toList_append, String.toList_singleton]
  rfl

/-- The mark of a place that is shown stands for its mode, and is one of the two. -/
theorem Shown.mark {place : Place} (h : Shown table place) :
    modeOf? place.mark = some place.mode ∧ (place.mark = '@' ∨ place.mark = '$') := by
  unfold Place.mark
  rcases h.1 with mode | mode <;> rw [mode]
  · exact ⟨rfl, .inl rfl⟩
  · exact ⟨rfl, .inr rfl⟩

/-- A place is read as far as its name goes. -/
theorem readPlace_text {place : Place} (h : Shown table place)
    (unnamed : ∀ v ∈ table.toList, hasName v = false) {rest : List Char} (ends : EndsWord rest) :
    readPlace table (place.text.toList ++ rest) = some (place, rest) := by
  obtain ⟨name, after⟩ := takeWhile_word (word_displayName (unnamed _ h.2)) ends
  have found : table.toList.find? (fun v => v.displayName.toList == place.var.displayName.toList) =
      some place.var := by
    cases result : table.toList.find?
        (fun v => v.displayName.toList == place.var.displayName.toList) with
    | none =>
      have missing := List.find?_eq_none.mp result place.var h.2
      exact absurd (beq_self_eq_true _) missing
    | some var =>
      have same := List.find?_some result
      rw [beq_iff_eq] at same
      rw [eq_of_displayName_eq (List.mem_of_find?_eq_some result) h.2 unnamed same]
  rw [text_toList, List.cons_append]
  simp only [readPlace, name, after, h.mark.1, found]

/-- A word is no place. -/
theorem readPlace_word {word : List Char} (h : Word word) (rest : List Char) :
    readPlace table (word ++ rest) = none := by
  obtain ⟨c, cs, rfl, hc⟩ := h.exists_cons
  have noMode : modeOf? c = none := by
    unfold modeOf?
    split
    · exact absurd hc (by decide)
    · exact absurd hc (by decide)
    · rfl
  simp only [List.cons_append, readPlace, noMode]

/-- The characters that a number or an access begins with, behind its sign. -/
def opensSigned (c : Char) : Bool := isWordChar c || c == '@' || c == '$'

/-- None of these characters begins anything else. -/
theorem ne_of_opensSigned {c d : Char} (h : opensSigned c = true) (hd : opensSigned d = false) :
    c ≠ d := by
  rintro rfl
  rw [h] at hd
  cases hd

/-- A word opens a number. -/
theorem Word.opens {word : List Char} (h : Word word) :
    ∃ c cs, word = c :: cs ∧ opensSigned c = true := by
  obtain ⟨c, cs, rfl, hc⟩ := h.exists_cons
  refine ⟨c, cs, rfl, ?_⟩
  rw [opensSigned, hc]
  rfl

/-- The mark of a place opens an access. -/
theorem Shown.opens {place : Place} (h : Shown table place) :
    ∃ c cs, place.text.toList = c :: cs ∧ opensSigned c = true := by
  refine ⟨_, _, text_toList place, ?_⟩
  rcases h.mark.2 with mark | mark <;> rw [mark] <;> rfl

/-- What is signed begins an operand. -/
theorem begins_signed {negated : Bool} {core : List Char}
    (opens : ∃ c cs, core = c :: cs ∧ opensSigned c = true) :
    Begins ((minusIf negated).toList ++ core) := by
  obtain ⟨c, cs, rfl, hc⟩ := opens
  have other := fun d hd => ne_of_opensSigned (d := d) hc hd
  cases negated with
  | false =>
    exact ⟨c, cs, rfl, other _ (by decide), other _ (by decide), other _ (by decide),
      other _ (by decide), fun sign => absurd sign (other _ (by decide))⟩
  | true =>
    exact ⟨'-', c :: cs, rfl, by decide, by decide, by decide, by decide,
      fun _ => ⟨c, cs, rfl, other _ (by decide)⟩⟩

/-- What is signed is read behind its sign. -/
theorem readOperand_signed {depth : Nat} {negated : Bool} {core : List Char}
    (opens : ∃ c cs, core = c :: cs ∧ opensSigned c = true) (rest : List Char) :
    readOperand table (depth + 1) ((minusIf negated).toList ++ core ++ rest) =
      readSigned (readOperand table depth) table depth negated (core ++ rest) := by
  obtain ⟨c, cs, rfl, hc⟩ := opens
  have other := fun d hd => ne_of_opensSigned (d := d) hc hd
  cases negated with
  | false =>
    show readOperand table (depth + 1) (c :: (cs ++ rest)) = _
    simp only [readOperand, other '(' (by decide), other '"' (by decide), other '!' (by decide),
      other '~' (by decide), other '-' (by decide), if_false, List.cons_append]
  | true => rfl

/-! ## Wholes -/

/-- What begins an operand is not read as a negated arithmetic node. -/
theorem readWhole_of_begins {operand : Reader Node} {cs : List Char} (h : Begins cs) :
    readWhole operand cs = readPlain operand cs := by
  obtain ⟨c, rest, rfl, -, -, -, -, sign⟩ := h
  unfold readWhole
  split
  · next heq =>
    cases heq
    obtain ⟨d, more, same, other⟩ := sign rfl
    cases same
    exact absurd rfl other
  · rfl

/-- How a node is read: as an operand and as a whole. -/
structure Reads (table : VariableTable) (node : Node) : Prop where
  begins : Begins (operandText node)
  opens : ∃ c cs, node.source.toList = c :: cs ∧ c ≠ ')'
  operand : ∀ {depth rest}, (operandText node).length < depth → Ends rest →
    readOperand table depth (operandText node ++ rest) = some (node.outline, rest)
  whole : ∀ {depth rest}, node.source.toList.length < depth → Closes rest →
    readWhole (readOperand table depth) (node.source.toList ++ rest) = some (node.outline, rest)

/-- A node that is not binary is read as a whole if it is read as an operand. -/
theorem Reads.of_operand {node : Node} (notBinary : node.isBinary = false)
    (begins : Begins node.source.toList)
    (behind : ∀ {depth rest}, node.source.toList.length ≤ depth → Ends rest →
      readOperand table (depth + 1) (node.source.toList ++ rest) = some (node.outline, rest)) :
    Reads table node := by
  have operand : ∀ {depth rest}, node.source.toList.length < depth → Ends rest →
      readOperand table depth (node.source.toList ++ rest) = some (node.outline, rest) := by
    intro depth rest fits ends
    cases depth with
    | zero => exact absurd fits (Nat.not_lt_zero _)
    | succ depth => exact behind (Nat.le_of_lt_succ fits) ends
  have same : operandText node = node.source.toList := by
    rw [operandText, notBinary]
    rfl
  have ⟨c, cs, hcs, _, _, _, close, _⟩ := begins
  refine ⟨same ▸ begins, ⟨c, cs, hcs, close⟩, fun fits ends => ?_, fun fits closes => ?_⟩
  · rw [same] at fits ⊢
    exact operand fits ends
  · rw [readWhole_of_begins (begins.append _)]
    simp only [readPlain, operand fits closes.ends, readOperator_closes closes]

/-- A number is read. -/
theorem reads_number {node : Node} (notBinary : node.isBinary = false)
    (numeral : Numeral node.source.toList) (outline : node.outline = .raw node.source) :
    Reads table node := by
  obtain ⟨negated, word, hword, text⟩ := numeral
  refine .of_operand notBinary (text ▸ begins_signed hword.opens) fun {depth rest} _ ends => ?_
  obtain ⟨taken, after⟩ := takeWhile_word hword ends.word
  have back : minusIf negated ++ String.ofList word = node.source := by
    rw [← String.toList_inj, String.toList_append, String.toList_ofList, text]
  rw [text, readOperand_signed hword.opens, readSigned, readPlace_word hword, outline, ← back]
  obtain ⟨c, cs, rfl, -⟩ := hword.exists_cons
  simp only [taken, after]

/-- An access is read, and so is what has the same text and outline. -/
theorem reads_access {node : Node} {negated : Bool} {place : Place}
    (notBinary : node.isBinary = false) (text : node.source = minusIf negated ++ place.text)
    (outline : node.outline = .access negated place) (shown : Shown table place)
    (unnamed : ∀ v ∈ table.toList, hasName v = false) : Reads table node := by
  have text' : node.source.toList = (minusIf negated).toList ++ place.text.toList := by
    rw [text, String.toList_append]
  refine .of_operand notBinary (text' ▸ begins_signed shown.opens) fun {depth rest} _ ends => ?_
  rw [text', readOperand_signed shown.opens, readSigned,
    readPlace_text shown unnamed ends.word, outline]
  cases rest with
  | nil => rfl
  | cons c rest =>
    have noIndices : c ≠ '(' := (ends c rfl).2
    split
    · next heq =>
      cases heq
      exact absurd rfl noIndices
    · next heq =>
      cases heq
      rfl
    · next heq => cases heq

/-- A string is read up to its closing quote. -/
theorem reads_text {s : String} (h : '"' ∉ s.toList) : Reads table (.text s) := by
  have text : (Node.text s).source.toList = '"' :: (s.toList ++ ['"']) := by
    rw [Node.source, String.toList_append, String.toList_append]
    rfl
  have inside : ∀ c ∈ s.toList, (c != '"') = true := by
    intro c hc
    rw [bne_iff_ne]
    rintro rfl
    exact h hc
  refine .of_operand rfl (text ▸ begins_cons (by decide)) fun {depth rest} _ _ => ?_
  rw [text, List.cons_append, List.append_assoc]
  show readText (s.toList ++ '"' :: rest) = _
  rw [readText, List.takeWhile_append_of_pos inside, List.dropWhile_append_of_pos inside,
    List.takeWhile_cons_of_neg (by decide), List.dropWhile_cons_of_neg (by decide),
    List.append_nil, String.ofList_toList]
  rfl

/-- The sign of a unary node is one character, and tells the reader what comes. -/
theorem readOperand_unary (table : VariableTable) {op : UnaryOp} (other : op ≠ .negate) :
    ∃ c, op.symbol.toList = [c] ∧ (∀ cs, Begins (c :: cs)) ∧
      ∀ depth cs, readOperand table (depth + 1) (c :: cs) =
        (readOperand table depth cs).map fun (node, rest) => (.unary op (some node), rest) := by
  cases op with
  | negate => exact absurd rfl other
  | not => exact ⟨'!', rfl, fun _ => begins_cons (by decide), fun _ _ => rfl⟩
  | bitNot => exact ⟨'~', rfl, fun _ => begins_cons (by decide), fun _ _ => rfl⟩

/-- A unary node is read if its operand is. -/
theorem reads_unary {op : UnaryOp} {operand : Node} (other : op ≠ .negate)
    (h : Reads table operand) : Reads table (.unary op (some operand)) := by
  obtain ⟨c, symbol, begins, read⟩ := readOperand_unary table other
  have text : (Node.unary op (some operand)).source.toList = c :: operandText operand := by
    rw [Node.source, String.toList_append, symbol]
    rfl
  refine .of_operand rfl (text ▸ begins _) fun {depth rest} fits ends => ?_
  rw [text, List.length_cons] at fits
  rw [text, List.cons_append, read, h.operand fits ends]
  rfl

/-! ## Binary nodes -/

/-- The text of two operands with an operator between them. -/
def pairText (op : BinaryOp) (left right : Node) : List Char :=
  operandText left ++ (op.symbol.toList ++ operandText right)

/-- A binary node is a pair, in brackets of its own if it is negated. -/
theorem source_binary {op : BinaryOp} {negated : Bool} {left right : Node}
    (arithmetic : negated = true → op.isArithmetic = true) :
    (Node.binary op negated (some left) (some right)).source.toList =
      if negated then '-' :: '(' :: (pairText op left right ++ [')'])
      else pairText op left right := by
  have between : (op.between (operandText? (some left)) (operandText? (some right))).toList =
      pairText op left right := by
    rw [pairText, ← List.append_assoc]
    show (bracketsIf left.isBinary left.source ++ op.symbol ++
      bracketsIf right.isBinary right.source).toList = _
    rw [String.toList_append, String.toList_append]
    rfl
  rw [Node.source]
  cases negated with
  | false =>
    rw [Bool.and_false]
    exact between
  | true =>
    rw [arithmetic rfl]
    show ("-(" ++ op.between (operandText? (some left)) (operandText? (some right)) ++
      ")").toList = _
    rw [String.toList_append, String.toList_append, between]
    rfl

/-- A closing bracket ends what is between brackets. -/
theorem closes_bracket (rest : List Char) : Closes (')' :: rest) := by
  intro c hc
  cases hc
  exact .inl rfl

/-- Brackets make an operand of a whole. -/
theorem readOperand_bracket {depth : Nat} {cs rest : List Char} {node : Node}
    (h : readWhole (readOperand table depth) cs = some (node, ')' :: rest)) :
    readOperand table (depth + 1) ('(' :: cs) = some (node, rest) := by
  simp only [readOperand, if_true, h]

/-- A minus sign before a bracket negates what the brackets hold. -/
theorem readWhole_negated {operand : Reader Node} {cs rest : List Char} {op : BinaryOp}
    {negated : Bool} {left right : Option Node}
    (h : readPlain operand cs = some (.binary op negated left right, ')' :: rest)) :
    readWhole operand ('-' :: '(' :: cs) = some (.binary op true left right, rest) := by
  simp only [readWhole, h]

/-- A pair is read if its operands are. -/
theorem readPlain_pair {op : BinaryOp} {left right : Node} (hleft : Reads table left)
    (hright : Reads table right) {depth : Nat} {rest : List Char}
    (fits : (pairText op left right).length < depth) (ends : Ends rest) :
    readPlain (readOperand table depth) (pairText op left right ++ rest) =
      some (.binary op false (some left.outline) (some right.outline), rest) := by
  rw [pairText, List.length_append, List.length_append] at fits
  rw [pairText, List.append_assoc, List.append_assoc]
  have first := hleft.operand (show (operandText left).length < depth by omega)
    (ends_symbol op (operandText right ++ rest))
  have between := readOperator_symbol op (hright.begins.append rest)
  have second := hright.operand (show (operandText right).length < depth by omega) ends
  simp only [readPlain, first, between, second, Option.map_some]

/-- A binary node stands in brackets as an operand. -/
theorem operandText_binary (op : BinaryOp) (negated : Bool) (left right : Option Node) :
    operandText (.binary op negated left right) =
      '(' :: ((Node.binary op negated left right).source.toList ++ [')']) := by
  show ("(" ++ (Node.binary op negated left right).source ++ ")").toList = _
  rw [String.toList_append, String.toList_append]
  rfl

/-- A binary node is read as a whole if its operands are read. -/
theorem readWhole_binary {op : BinaryOp} {negated : Bool} {left right : Node}
    (arithmetic : negated = true → op.isArithmetic = true) (hleft : Reads table left)
    (hright : Reads table right) {depth : Nat} {rest : List Char}
    (fits : (Node.binary op negated (some left) (some right)).source.toList.length < depth)
    (closes : Closes rest) :
    readWhole (readOperand table depth)
        ((Node.binary op negated (some left) (some right)).source.toList ++ rest) =
      some ((Node.binary op negated (some left) (some right)).outline, rest) := by
  rw [source_binary arithmetic] at fits ⊢
  cases negated with
  | false =>
    rw [if_neg Bool.false_ne_true] at fits ⊢
    have begins : Begins (pairText op left right ++ rest) := (hleft.begins.append _).append _
    rw [readWhole_of_begins begins]
    exact readPlain_pair hleft hright fits closes.ends
  | true =>
    rw [if_pos rfl] at fits ⊢
    rw [List.length_cons, List.length_cons, List.length_append] at fits
    have pair := readPlain_pair hleft hright
      (show (pairText op left right).length < depth by omega) (closes_bracket rest).ends
    rw [List.cons_append, List.cons_append, List.append_assoc]
    exact readWhole_negated pair

/-- A binary node is read if its operands are. -/
theorem reads_binary {op : BinaryOp} {negated : Bool} {left right : Node}
    (arithmetic : negated = true → op.isArithmetic = true) (hleft : Reads table left)
    (hright : Reads table right) : Reads table (.binary op negated (some left) (some right)) := by
  refine ⟨?begins, ?opens, fun {depth rest} fits ends => ?operand, fun fits closes =>
    readWhole_binary arithmetic hleft hright fits closes⟩
  case begins =>
    rw [operandText_binary]
    exact begins_cons (by decide)
  case opens =>
    rw [source_binary arithmetic]
    cases negated with
    | false =>
      obtain ⟨c, cs, same, -, -, -, close, -⟩ := hleft.begins
      exact ⟨c, _, by rw [if_neg Bool.false_ne_true, pairText, same]; rfl, close⟩
    | true => exact ⟨_, _, rfl, by decide⟩
  case operand =>
    cases depth with
    | zero => exact absurd fits (Nat.not_lt_zero _)
    | succ depth =>
      rw [operandText_binary, List.length_cons, List.length_append] at fits
      rw [operandText_binary, List.cons_append, List.append_assoc]
      exact readOperand_bracket
        (readWhole_binary arithmetic hleft hright (by omega) (closes_bracket rest))

/-! ## Array accesses -/

/-- Indices with commas between them. -/
def indicesText (indices : List Node) : List Char :=
  (String.intercalate "," (indexTexts indices)).toList

/-- An index before others is followed by a comma. -/
theorem indicesText_cons (index next : Node) (indices : List Node) :
    indicesText (index :: next :: indices) =
      index.source.toList ++ ',' :: indicesText (next :: indices) := by
  rw [indicesText, indexTexts, indexTexts, String.intercalate_cons_cons, String.toList_append,
    String.toList_append, List.append_assoc]
  rfl

/-- Where no bracket closes the indices, the next thing is an index. -/
theorem readIndices_opens {operand : Reader Node} {count : Nat} {cs : List Char}
    (opens : ∃ c more, cs = c :: more ∧ c ≠ ')') :
    readIndices operand (count + 1) cs =
      match readWhole operand cs with
      | some (index, ')' :: rest) => some ([index], rest)
      | some (index, ',' :: rest) =>
        (readIndices operand count rest).map fun (indices, rest) => (index :: indices, rest)
      | _ => none := by
  obtain ⟨c, more, rfl, other⟩ := opens
  have unclosed : ∀ rest, c :: more = ')' :: rest → False := by
    rintro rest same
    cases same
    exact other rfl
  exact readIndices.eq_3 operand (c :: more) count unclosed

/-- Indices are read up to their closing bracket if each of them is read. -/
theorem readIndices_text {indices : List Node} (h : ∀ index ∈ indices, Reads table index)
    {depth count : Nat} (fits : (indicesText indices).length < depth)
    (enough : (indicesText indices).length < count) (rest : List Char) :
    readIndices (readOperand table depth) count (indicesText indices ++ ')' :: rest) =
      some (indexOutlines indices, rest) := by
  induction indices generalizing count with
  | nil =>
    cases count with
    | zero => exact absurd enough (Nat.not_lt_zero _)
    | succ count => rfl
  | cons index indices ih =>
    obtain ⟨hindex, hrest⟩ := List.forall_mem_cons.mp h
    obtain ⟨c, cs, start, other⟩ := hindex.opens
    cases count with
    | zero => exact absurd enough (Nat.not_lt_zero _)
    | succ count =>
      cases indices with
      | nil =>
        have text : indicesText [index] = index.source.toList := by
          rw [indicesText, indexTexts, indexTexts, String.intercalate_singleton]
        rw [text] at fits ⊢
        rw [readIndices_opens ⟨c, _, by rw [start, List.cons_append], other⟩,
          hindex.whole fits (closes_bracket rest)]
        rfl
      | cons next indices =>
        rw [indicesText_cons, List.length_append, List.length_cons] at fits enough
        have comma : Closes (',' :: (indicesText (next :: indices) ++ ')' :: rest)) := by
          intro d hd
          cases hd
          exact .inr rfl
        rw [indicesText_cons, List.append_assoc, List.cons_append,
          readIndices_opens ⟨c, _, by rw [start, List.cons_append], other⟩,
          hindex.whole (by omega) comma]
        have later := @ih hrest count (by omega) (by omega)
        simp only [later, Option.map_some]
        rfl

/-- An array access is read if its indices are. -/
theorem reads_element {negated : Bool} {place : Place} {indices : List Node}
    (shown : Shown table place) (unnamed : ∀ v ∈ table.toList, hasName v = false)
    (h : ∀ index ∈ indices, Reads table index) :
    Reads table (.element negated (some place) indices) := by
  have text : (Node.element negated (some place) indices).source.toList =
      (minusIf negated).toList ++ (place.text.toList ++ '(' :: (indicesText indices ++ [')'])) := by
    rw [Node.source]
    simp only [String.toList_append, indicesText, List.append_assoc]
    rfl
  obtain ⟨c, cs, start, opens⟩ := shown.opens
  have opens' : ∃ d more, place.text.toList ++ '(' :: (indicesText indices ++ [')']) = d :: more ∧
      opensSigned d = true := ⟨c, _, by rw [start, List.cons_append], opens⟩
  refine .of_operand rfl (text ▸ begins_signed opens') fun {depth rest} fits ends => ?_
  rw [text] at fits
  simp only [List.length_append, List.length_cons] at fits
  have bracket : EndsWord ('(' :: (indicesText indices ++ ')' :: rest)) := by
    intro d hd
    cases hd
    decide
  have inside := @readIndices_text _ _ h depth depth (by omega) (by omega) rest
  rw [text, readOperand_signed opens', readSigned, List.append_assoc, List.cons_append,
    List.append_assoc, List.singleton_append, readPlace_text shown unnamed bracket]
  simp only [inside, Option.map_some]
  rfl

/-! ## Trees -/

/-- A complete tree of legible operands is read. -/
theorem reads_of_treeOf (unnamed : ∀ v ∈ table.toList, hasName v = false) {node : Node}
    (h : TreeOf (Legible table) node) : Reads table node := by
  induction h with
  | @operand node operand legible =>
    cases node with
    | byte v => exact reads_number rfl (numeral_wholeText v.toInt) rfl
    | short v => exact reads_number rfl (numeral_wholeText v.toInt) rfl
    | int v => exact reads_number rfl (numeral_wholeText v.toInt) rfl
    | long v => exact reads_number rfl (numeral_wholeText v.toInt) rfl
    | decimal x => exact reads_number rfl (numeral_plain x) rfl
    | text s => exact reads_text legible
    | raw s => exact absurd legible id
    | keyword name => exact absurd legible id
    | reference place =>
      exact @reads_access _ _ false _ rfl String.empty_append.symm rfl legible unnamed
    | access negated place => exact reads_access rfl rfl rfl legible unnamed
    | binary | unary | element | nop => cases operand
  | binary arithmetic _ _ hleft hright => exact reads_binary arithmetic hleft hright
  | unary other _ h => exact reads_unary other h
  | element shown _ _ h => exact reads_element shown unnamed h

/-- The text of a complete tree of legible operands reads back as the outline of the tree. -/
theorem read_source (unnamed : ∀ v ∈ table.toList, hasName v = false) {node : Node}
    (h : TreeOf (Legible table) node) : read table node.source = some node.outline := by
  have fits : node.source.toList.length < node.source.length + 1 := by
    rw [String.length_toList]
    exact Nat.lt_succ_self _
  have closes : Closes [] := by
    intro c hc
    cases hc
  have whole := (reads_of_treeOf unnamed h).whole fits closes
  rw [List.append_nil] at whole
  rw [read, whole]
  rfl

end NovelScript.Source
