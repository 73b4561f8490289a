/-
Printed values read back.

A reader takes the tokens of a text one by one, so what it makes of a text is told
by where each part of the text takes it.  The text of a value takes it from any
place where a value is due to the place behind that value, with the tree of the
value put where it belongs; this goes by induction on the value, and a container is
taken part by part.  A whole text leaves no container open and so gives that tree.
-/
import Tablewright.Json.Printer
import Tablewright.Json.Reader
import Tablewright.Proofs.Document.Value
import Tablewright.Proofs.Json.Numeral
import Tablewright.Proofs.Json.Quoted

namespace Tablewright.Json

open Document

/-! ### Cutting a text into tokens -/

/-- A text without blanks is cut into tokens. -/
inductive Cuts : List Char → List Token → Prop
  | nil : Cuts [] []
  | cons {c : Char} {more rest : List Char} {token : Token} {tokens : List Token}
      (blank : isBlank c = false) (scan : scanToken c (more ++ rest) = (token, rest))
      (cuts : Cuts rest tokens) : Cuts (c :: (more ++ rest)) (token :: tokens)

/-- No more rounds are needed than there are characters. -/
theorem Cuts.tokensWithin_eq {cs : List Char} {tokens : List Token} (h : Cuts cs tokens) :
    ∀ size, cs.length ≤ size → tokensWithin size cs = tokens := by
  induction h with
  | nil =>
      intro size _
      cases size <;> rfl
  | @cons c more rest token tokens blank scan _ ih =>
      intro size hsize
      simp only [List.length_cons, List.length_append] at hsize
      cases size with
      | zero => omega
      | succ size =>
          rw [tokensWithin, blank, scan]
          simp only [Bool.false_eq_true, if_false]
          rw [ih size (by omega)]

theorem Cuts.tokens_eq {s : String} {expected : List Token} (h : Cuts s.toList expected) :
    tokens s = expected :=
  h.tokensWithin_eq _ (Nat.le_refl _)

/-! ### Taking a part of a text -/

/-- A part of a text takes a reader from one place to another, whatever text comes before it and
behind it, as long as that does not go on with its last literal. -/
def Takes (part : List Char) (p q : Progress) : Prop :=
  ∃ tokens, (∀ rest after, EndsLiteral rest → Cuts rest after → Cuts (part ++ rest) (tokens ++ after))
    ∧ tokens.foldl step p = q

namespace Takes

variable {p q r : Progress}

theorem nil (p : Progress) : Takes [] p p :=
  ⟨[], fun _ _ _ hcuts => hcuts, rfl⟩

/-- One token. -/
theorem token {c : Char} {more : List Char} {token : Token} (blank : isBlank c = false)
    (scan : ∀ rest, EndsLiteral rest → scanToken c (more ++ rest) = (token, rest)) :
    Takes (c :: more) p (step p token) := by
  refine ⟨[token], fun rest after hrest hcuts => ?_, rfl⟩
  rw [List.cons_append]
  exact Cuts.cons blank (scan rest hrest) hcuts

/-- One token, whatever part follows it. -/
theorem cons {c : Char} {more part : List Char} {token : Token} (blank : isBlank c = false)
    (scan : ∀ rest, scanToken c (more ++ rest) = (token, rest)) (h : Takes part (step p token) q) :
    Takes (c :: (more ++ part)) p q := by
  obtain ⟨tokens, hcuts, hfold⟩ := h
  refine ⟨token :: tokens, fun rest after hrest hafter => ?_, hfold⟩
  rw [List.cons_append, List.append_assoc]
  exact Cuts.cons blank (scan (part ++ rest)) (hcuts rest after hrest hafter)

/-- A mark of a container, whatever part follows it. -/
theorem mark {c : Char} {part : List Char} {token : Token} (blank : isBlank c = false)
    (scan : ∀ rest, scanToken c rest = (token, rest)) (h : Takes part (step p token) q) :
    Takes (c :: part) p q := by
  have hmark : Takes (c :: ([] ++ part)) p q := cons blank scan h
  exact hmark

/-- A mark of a container ends the last literal of the part before it. -/
theorem append {before part : List Char} {c : Char} (hbefore : Takes before p q)
    (hc : c = ',' ∨ c = ']' ∨ c = '\x7d') (hpart : Takes (c :: part) q r) :
    Takes (before ++ c :: part) p r := by
  obtain ⟨first, hfirst, hfoldFirst⟩ := hbefore
  obtain ⟨second, hsecond, hfoldSecond⟩ := hpart
  refine ⟨first ++ second, fun rest after hrest hafter => ?_, ?_⟩
  · rw [List.append_assoc, List.append_assoc]
    exact hfirst _ _ (endsLiteral_cons hc _) (hsecond rest after hrest hafter)
  · rw [List.foldl_append, hfoldFirst, hfoldSecond]

/-- A quoted text. -/
theorem quoted (s : String) {part : List Char} (h : Takes part (step p (.text (.ok s))) q) :
    Takes (quoted s ++ part) p q := by
  have hscan (rest : List Char) :
      scanToken '"' ((s.toList.flatMap escapeChar ++ ['"']) ++ rest) = (.text (.ok s), rest) := by
    obtain ⟨pieces, hpieces, hdecode⟩ := scanQuoted_written s.toList rest
    have hquote : scanToken '"' ((s.toList.flatMap escapeChar ++ ['"']) ++ rest)
        = scanText (s.toList.flatMap escapeChar ++ '"' :: rest) := by
      rw [List.append_assoc]
      rfl
    rw [hquote]
    unfold scanText
    rw [hpieces]
    dsimp only
    have hcontent : String.ofList <$> decodePieces .closed pieces = .ok s := by
      rw [hdecode]
      exact congrArg Except.ok String.ofList_toList
    rw [hcontent]
    rfl
  exact cons (by decide) hscan h

end Takes

/-! ### Scalars -/

/-- The places where a value is due. -/
def Expecting.IsValue (next : Expecting) : Prop :=
  next = .value ∨ next = .nextItem ∨ next = .firstItem

theorem step_of_isValue {next : Expecting} (h : next.IsValue) (stack : List Frame) {token : Token}
    (htoken : token ≠ .closeList) : step (.open stack next) token = takeValue stack token := by
  rcases h with rfl | rfl | rfl
  · rfl
  · cases token <;> first | rfl | exact absurd rfl htoken
  · cases token <;> first | rfl | exact absurd rfl htoken

theorem scanToken_of_numeral {c : Char} (h : c = '-' ∨ c.isDigit = true) (cs : List Char) :
    scanToken c cs = scanNumber (c :: cs) := by
  rcases h with rfl | hdigit
  · rfl
  · have hdecide : (decide (c = '-') || c.isDigit) = true := by
      simp [hdigit]
    unfold scanToken
    iterate 10 refine (if_neg (Text.ne_of_isDigit hdigit (by decide))).trans ?_
    exact if_pos hdecide

theorem isBlank_of_numeral {c : Char} (h : c = '-' ∨ c.isDigit = true) : isBlank c = false := by
  rcases h with rfl | hdigit
  · decide
  · have hspace : c ≠ ' ' := Text.ne_of_isDigit hdigit (by decide)
    have hfeed : c ≠ '\n' := Text.ne_of_isDigit hdigit (by decide)
    have htab : c ≠ '\t' := Text.ne_of_isDigit hdigit (by decide)
    have hreturn : c ≠ '\r' := Text.ne_of_isDigit hdigit (by decide)
    simp [isBlank, hspace, hfeed, htab, hreturn]

theorem exists_intText_eq_cons (value : Int) :
    ∃ c more, Number.intText value = c :: more ∧ (c = '-' ∨ c.isDigit = true) := by
  obtain ⟨c, more, hdigits, hc⟩ := Text.exists_decimal_eq_cons value.natAbs
  unfold Number.intText
  split
  · exact ⟨'-', _, rfl, Or.inl rfl⟩
  · exact ⟨c, more, hdigits, Or.inr hc⟩

theorem takes_number {value : Int} (fits : -wordHalf ≤ value ∧ value < wordSize) (p : Progress) :
    Takes (Number.intText value) p (step p (.scalar (.ofScalar (.number (.whole value fits))))) := by
  obtain ⟨c, more, htext, hc⟩ := exists_intText_eq_cons value
  rw [htext]
  refine Takes.token (isBlank_of_numeral hc) fun rest hrest => ?_
  rw [scanToken_of_numeral hc, ← List.cons_append, ← htext]
  exact scanNumber_intText hrest fits

/-- The text of a scalar gives the scalar. -/
theorem takes_scalar {s : Scalar} (h : s.Plain) (stack : List Frame) {next : Expecting}
    (hnext : next.IsValue) :
    Takes (printScalar s) (.open stack next) (put (.ofScalar s) stack) := by
  have hscalar (s : Scalar) :
      step (.open stack next) (.scalar (.ofScalar s)) = put (.ofScalar s) stack :=
    step_of_isValue hnext stack (by simp)
  cases h with
  | null =>
      rw [← hscalar]
      exact Takes.token (by decide) fun _ _ => rfl
  | flag value =>
      rw [← hscalar]
      cases value
      · exact Takes.token (by decide) fun _ _ => rfl
      · exact Takes.token (by decide) fun _ _ => rfl
  | number value fits =>
      rw [← hscalar]
      have htext : printScalar (.number (.whole value fits)) = Number.intText value :=
        String.toList_ofList
      rw [htext]
      exact takes_number fits _
  | text value =>
      have htext : step (.open stack next) (.text (.ok value)) = put (.ofScalar (.text value)) stack :=
        step_of_isValue hnext stack (by simp)
      have hquoted := Takes.quoted value (Takes.nil (step (.open stack next) (.text (.ok value))))
      rw [List.append_nil, htext] at hquoted
      exact hquoted

/-! ### Containers -/

theorem printItems_eq_map (items : List Value) : printItems items = items.map print := by
  induction items with
  | nil => rfl
  | cons item rest ih => rw [printItems, ih, List.map_cons]

/-- The text of a value gives its tree, wherever a value is due. -/
def Gives (v : Value) (levels : Nat) : Prop :=
  ∀ stack next, next.IsValue → stack.length + levels ≤ depthLimit →
    Takes (print v) (.open stack next) (put v.toTree stack)

/-- The items of a list are put into it one by one. -/
theorem takes_items {levels : Nat} {items : List Value} (h : ∀ item ∈ items, Gives item levels)
    {stack : List Frame} (hdepth : stack.length + 1 + levels ≤ depthLimit) :
    items ≠ [] → ∀ taken next, next.IsValue →
      Takes (separated (items.map print)) (.open (.list taken :: stack) next)
        (.open (.list ((items.map Value.toTree).reverse ++ taken) :: stack) .afterItem) := by
  induction items with
  | nil => exact fun hne => absurd rfl hne
  | cons item rest ih =>
      intro _ taken next hnext
      rw [List.forall_mem_cons] at h
      have hitem := h.1 (.list taken :: stack) next hnext (by simpa using hdepth)
      cases rest with
      | nil => simpa [separated, put] using hitem
      | cons second others =>
          have hrest := ih h.2 (by simp) (item.toTree :: taken) .nextItem (Or.inr (Or.inl rfl))
          have hboth := hitem.append (Or.inl rfl) (Takes.mark (by decide) (fun _ => rfl) hrest)
          simpa [separated] using hboth

/-- A member of a map is put into it, its key first. -/
theorem takes_member (name : String) {levels : Nat} {v : Value} (h : Gives v levels)
    {stack : List Frame} (hdepth : stack.length + 1 + levels ≤ depthLimit)
    (taken : List (Key × Tree)) {next : Expecting} (hnext : next = .firstKey ∨ next = .nextKey) :
    Takes (printLabel (.name name) ++ ':' :: print v) (.open (.map taken :: stack) next)
      (.open (.map ((⟨pure (.name name), pure (.name name)⟩, v.toTree) :: taken) :: stack)
        .afterMember) := by
  have hkey : step (.open (.map taken :: stack) next) (.text (.ok name))
      = .open (.member taken (.ofText (.ok name)) :: stack) .colon := by
    rcases hnext with rfl | rfl
    · rfl
    · rfl
  have hvalue := h (.member taken (.ofText (.ok name)) :: stack) .value (Or.inl rfl)
    (by simpa using hdepth)
  refine Takes.quoted name ?_
  rw [hkey]
  exact Takes.mark (by decide) (fun _ => rfl) hvalue

/-- The members of a map are put into it one by one. -/
theorem takes_members {levels : Nat} {members : List (Label × Value)}
    (names : ∀ member ∈ members, ∃ name, member.1 = .name name)
    (h : ∀ member ∈ members, Gives member.2 levels)
    {stack : List Frame} (hdepth : stack.length + 1 + levels ≤ depthLimit) :
    members ≠ [] → ∀ taken next, next = .firstKey ∨ next = .nextKey →
      Takes (separated (printMembers members)) (.open (.map taken :: stack) next)
        (.open (.map ((Value.memberTrees members).reverse ++ taken) :: stack) .afterMember) := by
  induction members with
  | nil => exact fun hne => absurd rfl hne
  | cons member rest ih =>
      intro _ taken next hnext
      rw [List.forall_mem_cons] at h names
      obtain ⟨label, v⟩ := member
      obtain ⟨name, rfl⟩ := names.1
      have hmember := takes_member name h.1 hdepth taken hnext
      cases rest with
      | nil => simpa [printMembers, separated, Value.memberTrees] using hmember
      | cons second others =>
          have hrest := ih names.2 h.2 (by simp)
            ((⟨pure (.name name), pure (.name name)⟩, v.toTree) :: taken) .nextKey (Or.inr rfl)
          have hboth := hmember.append (Or.inl rfl) (Takes.mark (by decide) (fun _ => rfl) hrest)
          simpa [printMembers, separated, Value.memberTrees] using hboth

theorem gives_list {levels : Nat} {items : List Value} (h : ∀ item ∈ items, Gives item levels) :
    Gives (.list items) (levels + 1) := by
  intro stack next hnext hdepth
  have hopen : step (.open stack next) .openList = .open (.list [] :: stack) .firstItem :=
    step_of_isValue hnext stack (by simp)
  have hnested : nested stack.length (Value.toTree (.list items)) = Value.toTree (.list items) :=
    if_pos (by omega)
  have hclose : close (.list ((items.map Value.toTree).reverse ++ []) :: stack)
      = put (Value.toTree (.list items)) stack := by
    rw [← hnested, Value.toTree, Value.itemTrees_eq_map, List.append_nil]
    simp [close]
  rw [← hclose]
  refine Takes.mark (by decide) (fun _ => rfl) ?_
  rw [hopen, printItems_eq_map]
  have hend (p : Progress) : Takes [']'] p (step p .closeList) :=
    Takes.mark (by decide) (fun _ => rfl) (Takes.nil _)
  by_cases hitems : items = []
  · rw [hitems]
    exact hend (.open (.list [] :: stack) .firstItem)
  · have hinner : stack.length + 1 + levels ≤ depthLimit := by omega
    have hbody := takes_items h hinner hitems [] .firstItem (Or.inr (Or.inr rfl))
    exact hbody.append (Or.inr (Or.inl rfl)) (hend _)

theorem gives_map {levels : Nat} {members : List (Label × Value)}
    (names : ∀ member ∈ members, ∃ name, member.1 = .name name)
    (h : ∀ member ∈ members, Gives member.2 levels) : Gives (.map members) (levels + 1) := by
  intro stack next hnext hdepth
  have hopen : step (.open stack next) .openMap = .open (.map [] :: stack) .firstKey :=
    step_of_isValue hnext stack (by simp)
  have hnested : nested stack.length (Value.toTree (.map members)) = Value.toTree (.map members) :=
    if_pos (by omega)
  have hclose : close (.map ((Value.memberTrees members).reverse ++ []) :: stack)
      = put (Value.toTree (.map members)) stack := by
    rw [← hnested, Value.toTree, List.append_nil]
    simp [close]
  rw [← hclose]
  refine Takes.mark (by decide) (fun _ => rfl) ?_
  rw [hopen]
  have hend (p : Progress) : Takes ['\x7d'] p (step p .closeMap) :=
    Takes.mark (by decide) (fun _ => rfl) (Takes.nil _)
  by_cases hmembers : members = []
  · rw [hmembers]
    exact hend (.open (.map [] :: stack) .firstKey)
  · have hinner : stack.length + 1 + levels ≤ depthLimit := by omega
    have hbody := takes_members names h hinner hmembers [] .firstKey (Or.inl rfl)
    exact hbody.append (Or.inr (Or.inr rfl)) (hend _)

/-- **The text of a value gives its tree**, as long as a reader enters so many containers. -/
theorem gives_of_plain {levels : Nat} {v : Value} (h : v.Plain levels) : Gives v levels := by
  induction h with
  | scalar hs => exact fun stack next hnext _ => takes_scalar hs stack hnext
  | list h ih => exact gives_list ih
  | map names h ih => exact gives_map names ih

/-- **A printed value is parsed as its tree, with no text behind it.** -/
theorem parse_text {levels : Nat} {v : Value} (h : v.Plain levels) (hlevels : levels ≤ depthLimit) :
    parse (text v) = (v.toTree, false) := by
  obtain ⟨expected, hcuts, hfold⟩ := gives_of_plain h [] .value (Or.inl rfl) (by simpa using hlevels)
  have htokens : tokens (text v) = expected := by
    have hall := hcuts [] [] endsLiteral_nil Cuts.nil
    rw [List.append_nil, List.append_nil] at hall
    refine Cuts.tokens_eq ?_
    unfold text
    rw [String.toList_ofList]
    exact hall
  unfold parse
  rw [htokens, hfold]
  rfl

end Tablewright.Json
