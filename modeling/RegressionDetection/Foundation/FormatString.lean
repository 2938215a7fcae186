import RegressionDetection.Foundation.Text

/-! Python's format-string grammar as `string.Formatter.parse` and
`str.format_map` read it: literals with doubled braces and replacement fields.
Both walk the template with the same iterator, one chunk at a time. -/

namespace RegressionDetection.Foundation.FormatString

/-- A replacement field as the iterator returns it; `conversion` is the
character after `!`. -/
structure Replacement where
  name : List Char
  spec : List Char
  conversion : Option Char
deriving DecidableEq

/-- Literal text and the field after it, if one follows. -/
structure Chunk where
  literal : List Char
  field : Option Replacement
deriving DecidableEq

/-- Characters up to the first brace, that brace, and what follows it. -/
def scanLiteral : List Char → List Char × Option (Char × List Char)
  | [] => ([], none)
  | c :: rest =>
    if c = '{' ∨ c = '}' then ([], some (c, rest))
    else (c :: (scanLiteral rest).1, (scanLiteral rest).2)

/-- The field name up to `}`, `:` or `!`. Inside brackets only `]` counts. -/
def scanName : Bool → List Char → Except String (List Char × Option (Char × List Char))
  | _, [] => .ok ([], none)
  | true, c :: rest => do
    let (name, stop) ← scanName (c != ']') rest
    return (c :: name, stop)
  | false, c :: rest =>
    if c = '{' then .error "unexpected '\x7b' in field name"
    else if c = '}' ∨ c = ':' ∨ c = '!' then .ok ([], some (c, rest))
    else do
      let (name, stop) ← scanName (c == '[') rest
      return (c :: name, stop)

/-- The format specification up to its matching closing brace. -/
def scanSpec : Nat → List Char → Option (List Char × List Char)
  | _, [] => none
  | depth, c :: rest =>
    if c = '{' then (scanSpec (depth + 1) rest).map (fun found => (c :: found.1, found.2))
    else if c = '}' then
      if depth ≤ 1 then some ([], rest)
      else (scanSpec (depth - 1) rest).map (fun found => (c :: found.1, found.2))
    else (scanSpec depth rest).map (fun found => (c :: found.1, found.2))

def parseSpec (name : List Char) (conversion : Option Char) (text : List Char) :
    Except String (Replacement × List Char) :=
  match scanSpec 1 text with
  | none => .error "unmatched '\x7b' in format spec"
  | some (spec, rest) => .ok (⟨name, spec, conversion⟩, rest)

/-- The text after `!`: the conversion character, then `}` or a specification.
The null character stands for no conversion. -/
def parseConversion (name : List Char) : List Char → Except String (Replacement × List Char)
  | [] => .error "end of string while looking for conversion specifier"
  | c :: rest =>
    let conversion := if c.toNat = 0 then none else some c
    match rest with
    | [] => parseSpec name conversion []
    | '}' :: after => .ok (⟨name, [], conversion⟩, after)
    | ':' :: after => parseSpec name conversion after
    | _ => .error "expected ':' after conversion specifier"

/-- `parse_field`: the text after an opening brace. -/
def parseField (text : List Char) : Except String (Replacement × List Char) := do
  match ← scanName false text with
  | (name, some ('}', rest)) => return (⟨name, [], none⟩, rest)
  | (name, some ('!', rest)) => parseConversion name rest
  | (name, some (_, rest)) => parseSpec name none rest
  | (_, none) => throw "expected '\x7d' before end of string"

/-- `MarkupIterator_next` on a nonempty remainder. -/
def next (text : List Char) : Except String (Chunk × List Char) :=
  match scanLiteral text with
  | (literal, none) => .ok (⟨literal, none⟩, [])
  | (literal, some (brace, rest)) =>
    if rest.head? = some brace then .ok (⟨literal ++ [brace], none⟩, rest.tail)
    else if brace = '}' then .error "Single '\x7d' encountered in format string"
    else if rest = [] then .error "Single '\x7b' encountered in format string"
    else do
      let (field, after) ← parseField rest
      return (⟨literal, some field⟩, after)

/-- The chunks in order, ended by the end of the text or by a parse error. -/
inductive Markup where
  | done
  | bad (message : String)
  | chunk (head : Chunk) (rest : Markup)
deriving DecidableEq

def markupWithin : Nat → List Char → Markup
  | _, [] => .done
  | 0, _ :: _ => .done
  | fuel + 1, text =>
    match next text with
    | .error message => .bad message
    | .ok (head, rest) => .chunk head (markupWithin fuel rest)

/-- Iterate over the whole template; every chunk consumes a character. -/
def markup (text : List Char) : Markup := markupWithin text.length text

theorem scanLiteral_shorter {text literal rest : List Char} {brace : Char}
    (scanned : scanLiteral text = (literal, some (brace, rest))) : rest.length < text.length := by
  induction text generalizing literal with
  | nil => simp [scanLiteral] at scanned
  | cons c tail ih =>
    simp only [scanLiteral] at scanned
    split at scanned
    · obtain ⟨_, _, same⟩ : _ ∧ _ ∧ tail = rest := by simpa using scanned
      simp [same]
    · have found : scanLiteral tail = ((scanLiteral tail).1, some (brace, rest)) :=
        Prod.ext rfl (Prod.mk.inj scanned).2
      have shorter := ih found
      simp only [List.length_cons]
      omega

theorem scanName_shorter {bracket : Bool} {text name rest : List Char} {stop : Char}
    (scanned : scanName bracket text = .ok (name, some (stop, rest))) :
    rest.length < text.length := by
  induction text generalizing bracket name with
  | nil => simp [scanName] at scanned
  | cons c tail ih =>
    have grow {flag : Bool} {found : List Char × Option (Char × List Char)}
        (inner : scanName flag tail = .ok found) (same : found.2 = some (stop, rest)) :
        rest.length < (c :: tail).length := by
      have halted : scanName flag tail = .ok (found.1, some (stop, rest)) := by rw [inner, ← same]
      have shorter := ih halted
      simp only [List.length_cons]
      omega
    cases bracket with
    | true =>
      cases inner : scanName (c != ']') tail with
      | error message => simp [scanName, inner, bind, Except.bind] at scanned
      | ok found =>
        simp only [scanName, inner, bind, Except.bind, pure, Except.pure, Except.ok.injEq,
          Prod.mk.injEq] at scanned
        exact grow inner scanned.2
    | false =>
      simp only [scanName] at scanned
      split at scanned
      · cases scanned
      · split at scanned
        · simp only [Except.ok.injEq, Prod.mk.injEq, Option.some.injEq] at scanned
          simp [scanned.2.2]
        · cases inner : scanName (c == '[') tail with
          | error message => simp [inner, bind, Except.bind] at scanned
          | ok found =>
            simp only [inner, bind, Except.bind, pure, Except.pure, Except.ok.injEq,
              Prod.mk.injEq] at scanned
            exact grow inner scanned.2

theorem scanSpec_shorter {depth : Nat} {text spec rest : List Char}
    (scanned : scanSpec depth text = some (spec, rest)) : rest.length < text.length := by
  induction text generalizing depth spec with
  | nil => simp [scanSpec] at scanned
  | cons c tail ih =>
    have grow {inner : Nat} (found : (scanSpec inner tail).map (fun f => (c :: f.1, f.2)) =
        some (spec, rest)) : rest.length < (c :: tail).length := by
      obtain ⟨⟨body, after⟩, scan, same⟩ := Option.map_eq_some_iff.mp found
      have last : after = rest := congrArg Prod.snd same
      have shorter := ih (last ▸ scan)
      simp only [List.length_cons]
      omega
    simp only [scanSpec] at scanned
    split at scanned
    · exact grow scanned
    · split at scanned
      · split at scanned
        · simp only [Option.some.injEq, Prod.mk.injEq] at scanned
          simp [scanned.2]
        · exact grow scanned
      · exact grow scanned

theorem parseSpec_shorter {name text rest : List Char} {conversion : Option Char}
    {field : Replacement} (parsed : parseSpec name conversion text = .ok (field, rest)) :
    rest.length < text.length := by
  unfold parseSpec at parsed
  split at parsed
  · cases parsed
  · rename_i spec after scanned
    simp only [Except.ok.injEq, Prod.mk.injEq] at parsed
    exact scanSpec_shorter (parsed.2 ▸ scanned)

theorem parseConversion_shorter {name text rest : List Char} {field : Replacement}
    (parsed : parseConversion name text = .ok (field, rest)) : rest.length < text.length := by
  cases text with
  | nil => cases parsed
  | cons c tail =>
    simp only [parseConversion] at parsed
    split at parsed
    · exact absurd (parseSpec_shorter parsed) (by simp)
    · simp only [Except.ok.injEq, Prod.mk.injEq] at parsed
      simp only [List.length_cons, parsed.2]
      omega
    · have shorter := parseSpec_shorter parsed
      simp only [List.length_cons]
      omega
    · cases parsed

theorem parseField_shorter {text rest : List Char} {field : Replacement}
    (parsed : parseField text = .ok (field, rest)) : rest.length < text.length := by
  unfold parseField at parsed
  cases scanned : scanName false text with
  | error message => simp [scanned, bind, Except.bind] at parsed
  | ok found =>
    obtain ⟨name, stop⟩ := found
    simp only [scanned, bind, Except.bind] at parsed
    split at parsed
    · rename_i same
      simp only [Prod.mk.injEq] at same
      simp only [pure, Except.pure, Except.ok.injEq, Prod.mk.injEq] at parsed
      exact scanName_shorter (by rw [scanned, same.2, parsed.2])
    · rename_i same
      simp only [Prod.mk.injEq] at same
      have first := scanName_shorter (by rw [scanned, same.2])
      have second := parseConversion_shorter parsed
      omega
    · rename_i same
      simp only [Prod.mk.injEq] at same
      have first := scanName_shorter (by rw [scanned, same.2])
      have second := parseSpec_shorter parsed
      omega
    · cases parsed

theorem next_shorter {text rest : List Char} {head : Chunk} (nonempty : text ≠ [])
    (advanced : next text = .ok (head, rest)) : rest.length < text.length := by
  unfold next at advanced
  split at advanced
  · simp only [Except.ok.injEq, Prod.mk.injEq] at advanced
    rw [← advanced.2]
    exact List.length_pos_of_ne_nil nonempty
  · rename_i literal brace after scanned
    have first := scanLiteral_shorter scanned
    split at advanced
    · simp only [Except.ok.injEq, Prod.mk.injEq] at advanced
      rw [← advanced.2, List.length_tail]
      omega
    · split at advanced
      · cases advanced
      · split at advanced
        · cases advanced
        · cases parsed : parseField after with
          | error message => simp [parsed, bind, Except.bind] at advanced
          | ok found =>
            simp only [parsed, bind, Except.bind, pure, Except.pure, Except.ok.injEq,
              Prod.mk.injEq] at advanced
            have parsedField : parseField after = .ok (found.1, found.2) := parsed
            have second := parseField_shorter parsedField
            rw [← advanced.2]
            omega

/-- The bound on the iteration is never what ends it. -/
theorem markupWithin_enough {fuel : Nat} {text : List Char} (enough : text.length ≤ fuel) :
    markupWithin fuel text = markup text := by
  unfold markup
  suffices general : ∀ bound fuel : Nat, ∀ text : List Char, text.length ≤ bound →
      text.length ≤ fuel → markupWithin fuel text = markupWithin text.length text from
    general text.length fuel text (Nat.le_refl _) enough
  intro bound
  induction bound with
  | zero =>
    intro fuel text small _
    have empty : text = [] := List.length_eq_zero_iff.mp (Nat.le_zero.mp small)
    subst empty
    cases fuel <;> rfl
  | succ bound ih =>
    intro fuel text small enough
    cases text with
    | nil => cases fuel <;> rfl
    | cons c tail =>
      cases fuel with
      | zero => simp at enough
      | succ fuel =>
        simp only [List.length_cons, markupWithin]
        cases advanced : next (c :: tail) with
        | error message => rfl
        | ok found =>
          obtain ⟨head, rest⟩ := found
          have shorter := next_shorter (by simp) advanced
          simp only [List.length_cons] at shorter small enough
          exact congrArg (Markup.chunk head)
            ((ih fuel rest (by omega) (by omega)).trans (ih tail.length rest (by omega) (by omega)).symm)

/-- One unfolding of the iteration. -/
theorem markup_eq {text : List Char} (nonempty : text ≠ []) :
    markup text = match next text with
      | .error message => .bad message
      | .ok (head, rest) => .chunk head (markup rest) := by
  cases text with
  | nil => exact absurd rfl nonempty
  | cons c tail =>
    simp only [markup, List.length_cons, markupWithin]
    cases advanced : next (c :: tail) with
    | error message => rfl
    | ok found =>
      have stepped : next (c :: tail) = .ok (found.1, found.2) := advanced
      have shorter := next_shorter (by simp) stepped
      simp only [List.length_cons] at shorter
      exact congrArg (Markup.chunk found.1) (markupWithin_enough (by omega))

/-- The parse error that ends the iteration, if one does. -/
def Markup.failure : Markup → Option String
  | .done => none
  | .bad message => some message
  | .chunk _ rest => rest.failure

/-- The texts the iterator raises. -/
def parseErrors : List String :=
  ["unexpected '\x7b' in field name", "unmatched '\x7b' in format spec",
    "end of string while looking for conversion specifier",
    "expected ':' after conversion specifier", "expected '\x7d' before end of string",
    "Single '\x7d' encountered in format string", "Single '\x7b' encountered in format string"]

theorem scanName_error {bracket : Bool} {text : List Char} {message : String}
    (failed : scanName bracket text = .error message) : message ∈ parseErrors := by
  induction text generalizing bracket with
  | nil => cases bracket <;> cases failed
  | cons c tail ih =>
    cases bracket with
    | true =>
      cases inner : scanName (c != ']') tail with
      | error text =>
        obtain rfl : text = message := by simpa [scanName, inner, bind, Except.bind] using failed
        exact ih inner
      | ok found => simp [scanName, inner, bind, Except.bind, pure, Except.pure] at failed
    | false =>
      simp only [scanName] at failed
      split at failed
      · cases failed
        simp [parseErrors]
      · split at failed
        · cases failed
        · cases inner : scanName (c == '[') tail with
          | error text =>
            obtain rfl : text = message := by simpa [inner, bind, Except.bind] using failed
            exact ih inner
          | ok found => simp [inner, bind, Except.bind, pure, Except.pure] at failed

theorem parseSpec_error {name text : List Char} {conversion : Option Char} {message : String}
    (failed : parseSpec name conversion text = .error message) : message ∈ parseErrors := by
  unfold parseSpec at failed
  split at failed
  · cases failed
    simp [parseErrors]
  · cases failed

theorem parseConversion_error {name text : List Char} {message : String}
    (failed : parseConversion name text = .error message) : message ∈ parseErrors := by
  cases text with
  | nil =>
    cases failed
    simp [parseErrors]
  | cons c tail =>
    simp only [parseConversion] at failed
    split at failed
    · exact parseSpec_error failed
    · cases failed
    · exact parseSpec_error failed
    · cases failed
      simp [parseErrors]

theorem parseField_error {text : List Char} {message : String}
    (failed : parseField text = .error message) : message ∈ parseErrors := by
  unfold parseField at failed
  cases scanned : scanName false text with
  | error other =>
    obtain rfl : other = message := by simpa [scanned, bind, Except.bind] using failed
    exact scanName_error scanned
  | ok found =>
    simp only [scanned, bind, Except.bind] at failed
    split at failed
    · cases failed
    · exact parseConversion_error failed
    · exact parseSpec_error failed
    · cases failed
      simp [parseErrors]

theorem next_error {text : List Char} {message : String} (failed : next text = .error message) :
    message ∈ parseErrors := by
  unfold next at failed
  split at failed
  · cases failed
  · rename_i literal brace after scanned
    split at failed
    · cases failed
    · split at failed
      · cases failed
        simp [parseErrors]
      · split at failed
        · cases failed
          simp [parseErrors]
        · cases parsed : parseField after with
          | error other =>
            obtain rfl : other = message := by simpa [parsed, bind, Except.bind] using failed
            exact parseField_error parsed
          | ok found => simp [parsed, bind, Except.bind, pure, Except.pure] at failed

/-- Every parse error of a template carries one of the fixed texts. -/
theorem markup_failure {text : List Char} {message : String}
    (failed : (markup text).failure = some message) : message ∈ parseErrors := by
  suffices general : ∀ fuel text, (markupWithin fuel text).failure = some message →
      message ∈ parseErrors from general _ _ failed
  intro fuel
  induction fuel with
  | zero =>
    intro text stopped
    cases text <;> cases stopped
  | succ fuel ih =>
    intro text stopped
    cases text with
    | nil => cases stopped
    | cons c tail =>
      simp only [markupWithin] at stopped
      cases advanced : next (c :: tail) with
      | error other =>
        obtain rfl : other = message := by simpa [advanced, Markup.failure] using stopped
        exact next_error advanced
      | ok found =>
        rw [advanced] at stopped
        exact ih found.2 stopped

example : markup "a\x7b\x7bb\x7bname\x7dc".toList =
    .chunk ⟨"a\x7b".toList, none⟩ (.chunk ⟨"b".toList, some ⟨"name".toList, [], none⟩⟩
      (.chunk ⟨"c".toList, none⟩ .done)) := by decide

end RegressionDetection.Foundation.FormatString
