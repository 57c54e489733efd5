import SqlPlan.Proofs.Compile.Outcome

/-!
# SqlPlan — what is written, without a walk

Every instruction can be rendered by itself, once it is known which entity it
addresses, which separator it uses and which accumulator it writes to. All three
are said by the nearest instruction before it that has a word on them:

* `Site.node`, `Site.separator` — what is addressed at a site, and how;
* `Site.piece?` — what the instruction of a site writes;
* `pieces` — what is written to an accumulator, piece after piece;
* `Piece.extend`, `writtenTo` — the pieces put together to a text.

A walk resets its entity at every switch and keeps its separator all along.
`text_reading` says that this comes to the same text in each accumulator.
-/

namespace SqlPlan

-- ---------------------------------------------------------------------------
-- Pieces
-- ---------------------------------------------------------------------------

namespace Site

/-- The entity that is addressed at a site; the root if no instruction before
has turned to one. -/
def node (t : Tree) (s : Site) : Node := (latest? (Instruction.turn? t) s.before).getD t.root

/-- What stands between alias and column at a site. Nothing but another
separator takes it back. -/
def separator (s : Site) : String := (latest? Instruction.separator? s.before).getD "."

/-- What the instruction of a site writes. -/
def piece? (t : Tree) (d : Dialect) (s : Site) : Option Piece :=
  s.instruction.piece? t d (s.node t) s.separator

end Site

/-- The pieces that instructions write to an accumulator, in their order. -/
def pieces (t : Tree) (d : Dialect) (a : Accumulator) (is : List Instruction) : List Piece :=
  (sites is).filterMap fun s => if s.accumulator = a then s.piece? t d else none

/-- What a fragment needs between itself and the text before it. -/
def gapAfter (text : String) : String :=
  if text ≠ "" ∧ Text.endsBlank text = false then " " else ""

/-- A text with a piece after it. A fragment without anything but blanks is
left out. -/
def Piece.extend (text : String) : Piece → String
  | verbatim q => text ++ q.text
  | fragment q =>
    if Text.trim q.text = "" then text else text ++ gapAfter text ++ Text.trim q.text

/-- The text that instructions write to an accumulator. -/
def writtenTo (t : Tree) (d : Dialect) (a : Accumulator) (is : List Instruction) : String :=
  (pieces t d a is).foldl Piece.extend ""

-- ---------------------------------------------------------------------------
-- Putting pieces together
-- ---------------------------------------------------------------------------

theorem Piece.text_onto (p : Piece) (before : Sql) :
    (p.onto before).text = p.extend before.text := by
  cases p with
  | verbatim q => rfl
  | fragment q =>
    rw [onto, Sql.text_splice, Sql.joinText, extend, gapAfter]
    have hGap : (before.text ≠ "" ∧ Text.endsBlank before.text = false) ↔
        ¬ (before.text = "" ∨ Text.endsBlank before.text = true) := by
      rw [not_or, Bool.not_eq_true]
    split
    · rfl
    · by_cases hEnd : before.text = "" ∨ Text.endsBlank before.text = true
      · rw [if_pos hEnd, if_neg (hGap.not.mpr (not_not.mpr hEnd)), String.append_empty]
      · rw [if_neg hEnd, if_pos (hGap.mpr hEnd)]

theorem Accumulators.text_add (as : Accumulators) (a b : Accumulator) (p? : Option Piece) :
    ((as.add a p?).get b).text =
      (if a = b then p? else none).elim (as.get b).text (Piece.extend (as.get b).text) := by
  by_cases h : a = b
  · subst h
    cases p? with
    | none => simp [add]
    | some p => simp [add, Piece.text_onto]
  · cases p? with
    | none => simp [add]
    | some p =>
      rw [add, get_modify_of_ne as p.onto (Ne.symm h), if_neg h]
      rfl

/-- One more instruction adds its own piece, if it writes there at all. -/
theorem writtenTo_concat (t : Tree) (d : Dialect) (a : Accumulator) (is : List Instruction)
    (i : Instruction) :
    writtenTo t d a (is ++ [i]) =
      (if accumulatorAfter is = a then Site.piece? t d ⟨is, i⟩ else none).elim
        (writtenTo t d a is) (Piece.extend (writtenTo t d a is)) := by
  rw [writtenTo, pieces, sites_concat, List.filterMap_append, List.foldl_append]
  show List.foldl Piece.extend (writtenTo t d a is) _ = _
  rw [List.filterMap_cons, List.filterMap_nil, Site.accumulator]
  cases if accumulatorAfter is = a then Site.piece? t d ⟨is, i⟩ else none <;> rfl

/-- The text that a walk has written is the one put together without it. -/
theorem text_reading (t : Tree) (d : Dialect) (is : List Instruction) (a : Accumulator) :
    ((reading t d is).written.get a).text = writtenTo t d a is := by
  induction is using List.reverseRecOn with
  | nil => cases a <;> rfl
  | append_singleton is i ih =>
    -- the three parts of the state that a piece depends on are read off as well
    have hPiece : i.piece? t d (reading t d is).node (reading t d is).separator =
        Site.piece? t d ⟨is, i⟩ := by
      rw [reading_node, reading_separator]
      rfl
    rw [reading_concat, State.advance, Accumulators.text_add, ih, hPiece, reading_current,
      writtenTo_concat]

-- ---------------------------------------------------------------------------
-- Walks that compile
-- ---------------------------------------------------------------------------

/--
**A walk writes what its instructions say one by one.** If instructions
compile, the walk over them ends in a state from which the result is made, and
the text of each accumulator there is put together from the pieces that the
instructions write to it, each rendered by itself.
-/
theorem compile_written {t : Tree} {d : Dialect} {strict : Bool} {is : List Instruction}
    {c : Compiled} (hc : compile t d strict is = .ok c) :
    ∃ s, (State.start t).run t d is = .ok s ∧ s.finish t d = .ok c ∧
      ∀ a, (s.written.get a).text = writtenTo t d a is := by
  have hLoose := (compile_eq_ok_iff.mp hc).1
  rw [compileLoose_eq] at hLoose
  have hRun := State.run_start t d is
  cases hFault : firstFault? t is with
  | some e => simp [hFault] at hLoose
  | none =>
    rw [hFault] at hLoose hRun
    exact ⟨reading t d is, hRun, hLoose, text_reading t d is⟩

/-- A page that goes back to its order after its filter, with a separator of
its own throughout. -/
def pageInTwoParts : List Instruction :=
  [.pagedInitialQuery ⟨0, 5⟩, .separator "$", .path [.entity "Line"], .pagedMainOrderBy,
    .column "total" .asIs, .pagedMainWhere [], .path [.entity "Line"], .column "qty" .asIs,
    .arrayParam [.int 2], .pagedMainOrderBy, .text ", ", .idAlias]

/-- A page written in two turns: the separator set in the first still holds in
the second, where a label uses the node's own. -/
theorem compile_written_orders :
    ∃ c s, compile (.orders .null) .sqlite false pageInTwoParts = .ok c ∧
      (State.start (.orders .null)).run (.orders .null) .sqlite pageInTwoParts = .ok s ∧
      s.written.order.text = "o$total, o_id" ∧
      s.written.main.text = "l$qty IN (SELECT value FROM json_each(?))" := by
  obtain ⟨c, hc⟩ : ∃ c, compile (.orders .null) .sqlite false pageInTwoParts = .ok c := by
    rw [compile_eq]
    exact ⟨_, rfl⟩
  obtain ⟨s, hRun, -, hText⟩ := compile_written hc
  have hOrder : writtenTo (.orders .null) .sqlite .order pageInTwoParts = "o$total, o_id" := by
    decide +kernel
  have hMain : writtenTo (.orders .null) .sqlite .main pageInTwoParts =
      "l$qty IN (SELECT value FROM json_each(?))" := by
    decide +kernel
  exact ⟨c, s, hc, hRun, (hText .order).trans hOrder, (hText .main).trans hMain⟩

end SqlPlan
