import DeviceCatalog.Proofs.Json.Assembly

/-!
# Only JSON texts are read

What is read as a value is a text of this value, so the texts of a value are exactly those that are read
as it. For the scan of the bytes and for the assembly of the tokens alike, each state tells what has been
taken so far: the bytes spell the tokens of the state, and the tokens are those of the values and the open
frames in it.
-/

namespace DeviceCatalog.Json

/-! ## The scan of the bytes -/

theorem Lexeme.Spells.snoc {bytes more : Bytes} {lexeme : Lexeme} {piece : Piece}
    (spells : lexeme.Spells bytes) (last : piece.Spells more) :
    Lexeme.Spells (bytes ++ more) (lexeme ++ [piece]) := by
  induction spells with
  | nil => simpa using Lexeme.Spells.cons last .nil
  | cons first _ ih =>
      rw [List.append_assoc]
      exact .cons first ih

namespace Token

theorem SpellsAll.snoc {text bytes : Bytes} {tokens : List Token} {token : Token}
    (spells : SpellsAll text tokens) (last : token.Spells bytes) :
    SpellsAll (text ++ bytes) (tokens ++ [token]) := by
  induction spells with
  | nil blank =>
      have ended : SpellsAll [] [] := .nil (by simp)
      simpa using SpellsAll.cons blank last ended
  | cons blank first _ ih =>
      rw [List.append_assoc]
      exact .cons blank first ih

theorem SpellsAll.blank {text : Bytes} {tokens : List Token} (spells : SpellsAll text tokens)
    {byte : UInt8} (space : isBlank byte = true) : SpellsAll (text ++ [byte]) tokens := by
  induction spells with
  | nil blank => exact .nil (List.forall_mem_append.2 ⟨blank, by simpa using space⟩)
  | cons blank first _ ih =>
      rw [List.append_assoc]
      exact .cons blank first ih

namespace Scan

/-- The bytes lead to the scan: they spell its tokens and what is read of the token that is open. -/
def Reached (bytes : Bytes) : Scan → Prop
  | ⟨tokens, .between⟩ => SpellsAll bytes tokens.reverse
  | ⟨tokens, .word letters⟩ =>
      ∃ before, bytes = before ++ letters.reverse ∧ SpellsAll before tokens.reverse
  | ⟨tokens, .text pieces⟩ =>
      ∃ before inside, bytes = before ++ 34 :: inside ∧ SpellsAll before tokens.reverse ∧
        Lexeme.Spells inside pieces.reverse
  | ⟨tokens, .escape pieces⟩ =>
      ∃ before inside, bytes = before ++ 34 :: (inside ++ [92]) ∧
        SpellsAll before tokens.reverse ∧ Lexeme.Spells inside pieces.reverse
  | ⟨tokens, .hex pieces value more⟩ =>
      ∃ before inside digits values, bytes = before ++ 34 :: (inside ++ 92 :: 117 :: digits) ∧
        SpellsAll before tokens.reverse ∧ Lexeme.Spells inside pieces.reverse ∧
        List.Forall₂ (fun digit value => ofHex? digit = some value) digits values ∧
        digits.length + more = 3 ∧ value = values.foldl (fun value digit => value * 16 + digit) 0

theorem reached_stepBetween {bytes : Bytes} {tokens : List Token}
    (spells : SpellsAll bytes tokens.reverse) {byte : UInt8} {after : Scan}
    (taken : stepBetween tokens byte = some after) : Reached (bytes ++ [byte]) after := by
  rw [stepBetween] at taken
  split at taken
  next space =>
    cases taken
    exact spells.blank space
  next =>
    split at taken
    next quote =>
      cases taken
      subst quote
      exact ⟨bytes, [], rfl, spells, .nil⟩
    next =>
      split at taken
      next =>
        cases taken
        exact ⟨bytes, rfl, spells⟩
      next =>
        obtain ⟨mark, stands, rfl⟩ := Option.map_eq_some_iff.1 taken
        simp only [Reached, List.reverse_cons]
        exact spells.snoc (.mark stands)

theorem reached_step {bytes : Bytes} {scan after : Scan} (reached : Reached bytes scan)
    {byte : UInt8} (taken : scan.step byte = some after) : Reached (bytes ++ [byte]) after := by
  obtain ⟨tokens, place⟩ := scan
  cases place with
  | between => exact reached_stepBetween reached taken
  | word letters =>
      obtain ⟨before, rfl, spells⟩ := reached
      simp only [step] at taken
      split at taken
      next =>
        cases taken
        exact ⟨before, by simp, spells⟩
      next =>
        have closed : SpellsAll (before ++ letters.reverse)
            (Token.word letters.reverse :: tokens).reverse := by
          rw [List.reverse_cons]
          exact spells.snoc (.word _)
        exact reached_stepBetween closed taken
  | text pieces =>
      obtain ⟨before, inside, rfl, spells, within⟩ := reached
      simp only [step] at taken
      split at taken
      next quote =>
        cases taken
        subst quote
        simp only [Reached, List.reverse_cons]
        have closed := spells.snoc (.text within)
        simpa using closed
      next quote =>
        split at taken
        next backslash =>
          cases taken
          subst backslash
          exact ⟨before, inside, by simp, spells, within⟩
        next backslash =>
          split at taken
          next => cases taken
          next printable =>
            cases taken
            refine ⟨before, inside ++ [byte], by simp, spells, ?_⟩
            rw [List.reverse_cons]
            exact within.snoc (.plain quote backslash printable)
  | escape pieces =>
      obtain ⟨before, inside, rfl, spells, within⟩ := reached
      simp only [step] at taken
      split at taken
      next letter =>
        cases taken
        subst letter
        exact ⟨before, inside, [], [], by simp, spells, within, .nil, rfl, rfl⟩
      next =>
        obtain ⟨value, stands, rfl⟩ := Option.map_eq_some_iff.1 taken
        refine ⟨before, inside ++ [92, byte], by simp, spells, ?_⟩
        rw [List.reverse_cons]
        exact within.snoc (.escape stands)
  | hex pieces value more =>
      obtain ⟨before, inside, digits, values, rfl, spells, within, each, count, rfl⟩ := reached
      simp only [step] at taken
      obtain ⟨digit, stands, rfl⟩ := Option.map_eq_some_iff.1 taken
      have next : List.Forall₂ (fun digit value => ofHex? digit = some value) (digits ++ [byte])
          (values ++ [digit]) := List.rel_append each (.cons stands .nil)
      cases more with
      | zero =>
          obtain ⟨a, b, c, rfl⟩ := List.length_eq_three.1 count
          rcases each with _ | ⟨first, _ | ⟨second, _ | ⟨third, _ | _⟩⟩⟩
          refine ⟨before, inside ++ [92, 117, a, b, c, byte], by simp, spells, ?_⟩
          simpa using within.snoc (.unit first second third stands)
      | succ more =>
          exact ⟨before, inside, digits ++ [byte], values ++ [digit], by simp, spells, within, next,
            by simp; omega, by simp⟩

theorem reached_foldlM {text bytes : Bytes} {scan after : Scan} (reached : Reached bytes scan)
    (taken : text.foldlM step scan = some after) : Reached (bytes ++ text) after := by
  induction text generalizing bytes scan with
  | nil =>
      cases taken
      simpa using reached
  | cons byte rest ih =>
      rw [List.foldlM_cons, Option.bind_eq_bind, Option.bind_eq_some_iff] at taken
      obtain ⟨middle, first, remaining⟩ := taken
      simpa using ih (reached_step reached first) remaining

theorem spellsAll_of_finish {bytes : Bytes} {scan : Scan} {tokens : List Token}
    (reached : Reached bytes scan) (finished : scan.finish = some tokens) :
    SpellsAll bytes tokens := by
  obtain ⟨before, place⟩ := scan
  cases place with
  | between =>
      cases finished
      exact reached
  | word letters =>
      cases finished
      obtain ⟨start, rfl, spells⟩ := reached
      rw [List.reverse_cons]
      exact spells.snoc (.word _)
  | text pieces => cases finished
  | escape pieces => cases finished
  | hex pieces value more => cases finished

end Scan

/-- Bytes that are read as tokens are a text of these tokens. -/
theorem spellsAll_of_read? {text : Bytes} {tokens : List Token} (read : read? text = some tokens) :
    SpellsAll text tokens := by
  rw [read?, Option.bind_eq_bind, Option.bind_eq_some_iff] at read
  obtain ⟨after, taken, finished⟩ := read
  have started : Scan.Reached [] Scan.start := .nil (by simp)
  exact Scan.spellsAll_of_finish (Scan.reached_foldlM started taken) finished

end Token

/-! ## The assembly of the tokens -/

theorem elementTokens_snoc (elements : List Json) (last : Json) :
    elementTokens (elements ++ [last]) =
      (elements.flatMap fun element => element.tokens ++ [.comma]) ++ last.tokens := by
  induction elements with
  | nil => rfl
  | cons element rest ih =>
      rw [List.flatMap_cons, List.append_assoc, ← ih]
      cases rest with
      | nil => simp [elementTokens]
      | cons next others => simp [elementTokens]

theorem memberTokens_snoc (members : List (Lexeme × Json)) (key : Lexeme) (last : Json) :
    memberTokens (members ++ [(key, last)]) =
      (members.flatMap fun member => .text member.1 :: .colon :: member.2.tokens ++ [.comma]) ++
        .text key :: .colon :: last.tokens := by
  induction members with
  | nil => rfl
  | cons member rest ih =>
      rw [List.flatMap_cons, List.append_assoc, ← ih]
      cases rest with
      | nil => simp [memberTokens]
      | cons next others => simp [memberTokens]

/-- The tokens of the members of an object that are followed by another member. -/
def followedTokens (members : List (Lexeme × Json)) : List Token :=
  members.reverse.flatMap fun member => .text member.1 :: .colon :: member.2.tokens ++ [.comma]

/-- The tokens that were taken for an open array or object. -/
def Frame.tokens : Frame → List Token
  | array elements =>
      .openBracket :: elements.reverse.flatMap fun element => element.tokens ++ [.comma]
  | object members key => .openBrace :: followedTokens members ++ [.text key, .colon]

/-- The tokens that were taken for open arrays and objects, the outermost first. -/
def framesTokens (frames : List Frame) : List Token := frames.reverse.flatMap Frame.tokens

theorem framesTokens_cons (frame : Frame) (frames : List Frame) :
    framesTokens (frame :: frames) = framesTokens frames ++ frame.tokens := by
  simp [framesTokens]

/-- The values in an open array or object have numbers that are numbers. -/
def Frame.IsProper : Frame → Prop
  | array elements => ∀ element ∈ elements, element.IsProper
  | object members _ => ∀ member ∈ members, member.2.IsProper

theorem of_ofWord? {letters : Bytes} {value : Json} (named : ofWord? letters = some value) :
    value.tokens = [.word letters] ∧ value.IsProper := by
  simp only [ofWord?] at named
  split_ifs at named with null truth falsity number <;> cases named
  · exact ⟨null ▸ rfl, .null⟩
  · exact ⟨truth ▸ rfl, .bool true⟩
  · exact ⟨falsity ▸ rfl, .bool false⟩
  · exact ⟨rfl, .number (Number.isWellFormed_iff.1 number)⟩

namespace Assembly

/-- The tokens that were taken on the way to the state. -/
def taken : Assembly → List Token
  | value frames => framesTokens frames
  | firstElement frames => framesTokens frames ++ [.openBracket]
  | firstKey frames => framesTokens frames ++ [.openBrace]
  | nextKey frames members => framesTokens frames ++ .openBrace :: followedTokens members
  | afterKey frames members key =>
      framesTokens frames ++ .openBrace :: followedTokens members ++ [.text key]
  | complete frames whole => framesTokens frames ++ whole.tokens

/-- The values in the state have numbers that are numbers. -/
def IsProper : Assembly → Prop
  | value frames | firstElement frames | firstKey frames => ∀ frame ∈ frames, frame.IsProper
  | nextKey frames members | afterKey frames members _ =>
      (∀ frame ∈ frames, frame.IsProper) ∧ ∀ member ∈ members, member.2.IsProper
  | complete frames whole => (∀ frame ∈ frames, frame.IsProper) ∧ whole.IsProper

/-- The token is added to those that were taken. -/
structure Follows (state : Assembly) (token : Token) (next : Assembly) : Prop where
  taken : next.taken = state.taken ++ [token]
  isProper : state.IsProper → next.IsProper

theorem follows_stepValue {frames : List Frame} {token : Token} {next : Assembly}
    (stepped : stepValue frames token = some next) : Follows (.value frames) token next := by
  rw [stepValue.eq_def] at stepped
  split at stepped
  next =>
    cases stepped
    exact ⟨rfl, id⟩
  next =>
    cases stepped
    exact ⟨rfl, id⟩
  next letters =>
    obtain ⟨whole, named, rfl⟩ := Option.map_eq_some_iff.1 stepped
    obtain ⟨same, proper⟩ := of_ofWord? named
    exact ⟨congrArg (framesTokens frames ++ ·) same, fun frames => ⟨frames, proper⟩⟩
  next lexeme =>
    cases stepped
    exact ⟨rfl, fun frames => ⟨frames, .text lexeme⟩⟩
  next => cases stepped

theorem follows_step {state next : Assembly} {token : Token}
    (stepped : state.step token = some next) : Follows state token next := by
  rw [step.eq_def] at stepped
  split at stepped
  next => exact follows_stepValue stepped
  next frames =>
    cases stepped
    exact ⟨by simp [taken, tokens, elementTokens], fun proper => ⟨proper, .array (List.forall_mem_nil _)⟩⟩
  next frames token _ =>
    obtain ⟨same, proper⟩ := follows_stepValue stepped
    refine ⟨by rw [same, taken, framesTokens_cons]; rfl, fun held => proper ?_⟩
    exact List.forall_mem_cons.2 ⟨List.forall_mem_nil _, held⟩
  next frames =>
    cases stepped
    exact ⟨by simp [taken, tokens, memberTokens], fun proper => ⟨proper, .object (List.forall_mem_nil _)⟩⟩
  next frames key =>
    cases stepped
    exact ⟨by simp [taken, followedTokens], fun proper => ⟨proper, List.forall_mem_nil _⟩⟩
  next frames members key =>
    cases stepped
    exact ⟨by simp [taken], id⟩
  next frames members key =>
    cases stepped
    refine ⟨by simp [taken, framesTokens_cons, Frame.tokens], fun proper => ?_⟩
    exact List.forall_mem_cons.2 ⟨proper.2, proper.1⟩
  next elements frames last =>
    cases stepped
    refine ⟨by simp [taken, framesTokens_cons, Frame.tokens], fun proper => ?_⟩
    obtain ⟨held, frames⟩ := List.forall_mem_cons.1 proper.1
    exact List.forall_mem_cons.2 ⟨List.forall_mem_cons.2 ⟨proper.2, held⟩, frames⟩
  next elements frames last =>
    cases stepped
    refine ⟨?_, fun proper => ?_⟩
    · simp [taken, framesTokens_cons, Frame.tokens, tokens, elementTokens_snoc]
    · obtain ⟨held, frames⟩ := List.forall_mem_cons.1 proper.1
      refine ⟨frames, .array fun element listed => ?_⟩
      exact List.forall_mem_cons.2 ⟨proper.2, held⟩ element (List.mem_reverse.1 listed)
  next members key frames last =>
    cases stepped
    refine ⟨by simp [taken, framesTokens_cons, Frame.tokens, followedTokens], fun proper => ?_⟩
    obtain ⟨held, frames⟩ := List.forall_mem_cons.1 proper.1
    have extended : ∀ member ∈ (key, last) :: members, member.2.IsProper :=
      List.forall_mem_cons.2 ⟨proper.2, held⟩
    exact ⟨frames, extended⟩
  next members key frames last =>
    cases stepped
    refine ⟨?_, fun proper => ?_⟩
    · simp [taken, framesTokens_cons, Frame.tokens, tokens, memberTokens_snoc, followedTokens]
    · obtain ⟨held, frames⟩ := List.forall_mem_cons.1 proper.1
      have extended : ∀ member ∈ (key, last) :: members, member.2.IsProper :=
        List.forall_mem_cons.2 ⟨proper.2, held⟩
      exact ⟨frames, .object fun member listed => extended member (List.mem_reverse.1 listed)⟩
  next => cases stepped

theorem follows_foldlM {text : List Token} {state after : Assembly} (proper : state.IsProper)
    (stepped : text.foldlM step state = some after) :
    after.taken = state.taken ++ text ∧ after.IsProper := by
  induction text generalizing state with
  | nil =>
      cases stepped
      exact ⟨by simp, proper⟩
  | cons token rest ih =>
      rw [List.foldlM_cons, Option.bind_eq_bind, Option.bind_eq_some_iff] at stepped
      obtain ⟨middle, first, remaining⟩ := stepped
      have follows := follows_step first
      obtain ⟨same, kept⟩ := ih (follows.isProper proper) remaining
      exact ⟨by rw [same, follows.taken]; simp, kept⟩

end Assembly

/-- Tokens that make up a value are the tokens of this value. -/
theorem of_ofTokens? {text : List Token} {value : Json} (read : ofTokens? text = some value) :
    value.tokens = text ∧ value.IsProper := by
  rw [ofTokens?, Option.bind_eq_bind, Option.bind_eq_some_iff] at read
  obtain ⟨after, stepped, finished⟩ := read
  have started : (Assembly.value []).IsProper := List.forall_mem_nil _
  obtain ⟨same, proper⟩ := Assembly.follows_foldlM started stepped
  rw [Assembly.finish.eq_def] at finished
  split at finished
  next whole =>
    cases finished
    exact ⟨same, proper.2⟩
  next => cases finished

/-- What is read as a value are the texts of the value. -/
theorem read?_eq_some_iff {text : Bytes} {value : Json} :
    read? text = some value ↔ value.Spells text := by
  refine ⟨fun read => ?_, read?_of_spells⟩
  rw [read?, Option.bind_eq_bind, Option.bind_eq_some_iff] at read
  obtain ⟨tokens, scanned, assembled⟩ := read
  obtain ⟨rfl, proper⟩ := of_ofTokens? assembled
  exact ⟨proper, Token.spellsAll_of_read? scanned⟩

end DeviceCatalog.Json
