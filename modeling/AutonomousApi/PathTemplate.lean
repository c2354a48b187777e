/-! Path templates: literal characters and holes written `{name}`. A hole stands
for one or more characters other than the separator. Two templates overlap when
some concrete path fits both; `overlaps` decides that without enumerating paths,
by letting both templates consume the same character at each step. -/

namespace AutonomousApi.PathTemplate

inductive Piece where
  | char (c : Char)
  | hole (name : List Char)
  deriving DecidableEq, Repr

abbrev Template := List Piece

/-- `pending` holds the characters read since an open brace. The brace and those
characters turn literal unless a closing brace ends a nonempty name. -/
def scan : Option (List Char) → List Char → Template
  | none, [] => []
  | some pending, [] => .char '{' :: pending.map .char
  | none, c :: rest => if c = '{' then scan (some []) rest else .char c :: scan none rest
  | some pending, c :: rest =>
      if c = '{' then .char '{' :: pending.map .char ++ scan (some []) rest
      else if c = '}' then
        if pending = [] then .char '{' :: .char '}' :: scan none rest
        else .hole pending :: scan none rest
      else scan (some (pending ++ [c])) rest

def parse (path : String) : Template := scan none path.toList

def holes (template : Template) : List (List Char) :=
  template.filterMap fun
    | .hole name => some name
    | .char _ => none

/-- The template text with every hole name erased. -/
def erased (template : Template) : List Char :=
  template.flatMap fun
    | .char c => [c]
    | .hole _ => ['{', '}']

def accepts : Template → List Char → Bool
  | [], [] => true
  | .char c :: template, d :: path => c == d && accepts template path
  | .hole name :: template, d :: path =>
      d != '/' && (accepts template path || accepts (.hole name :: template) path)
  | _, _ => false

def overlapsWithin : Nat → Template → Template → Bool
  | _, [], [] => true
  | fuel + 1, .char c :: left, .char d :: right => c == d && overlapsWithin fuel left right
  | fuel + 1, .char c :: left, .hole name :: right =>
      c != '/' && (overlapsWithin fuel left right || overlapsWithin fuel left (.hole name :: right))
  | fuel + 1, .hole name :: left, .char d :: right =>
      d != '/' && (overlapsWithin fuel left right || overlapsWithin fuel (.hole name :: left) right)
  | fuel + 1, .hole name :: left, .hole other :: right =>
      overlapsWithin fuel left right || overlapsWithin fuel left (.hole other :: right) ||
        overlapsWithin fuel (.hole name :: left) right
  | _, _, _ => false

def overlaps (left right : Template) : Bool := overlapsWithin (left.length + right.length) left right

attribute [local simp] accepts overlapsWithin

theorem accepts_nil_iff (template : Template) : accepts template [] = true ↔ template = [] := by
  cases template with
  | nil => simp
  | cons piece rest => cases piece <;> simp

theorem overlapsWithin_sound (fuel : Nat) (left right : Template)
    (overlap : overlapsWithin fuel left right = true) :
    ∃ path, accepts left path = true ∧ accepts right path = true := by
  induction fuel generalizing left right with
  | zero =>
      cases left <;> cases right <;> simp at overlap
      exact ⟨[], rfl, rfl⟩
  | succ fuel ih =>
      match left, right with
      | [], [] => exact ⟨[], rfl, rfl⟩
      | [], .char _ :: _ => simp at overlap
      | [], .hole _ :: _ => simp at overlap
      | .char _ :: _, [] => simp at overlap
      | .hole _ :: _, [] => simp at overlap
      | .char c :: left, .char d :: right =>
          simp only [overlapsWithin, Bool.and_eq_true, beq_iff_eq] at overlap
          obtain ⟨path, fitsLeft, fitsRight⟩ := ih left right overlap.2
          exact ⟨c :: path, by simp [fitsLeft], by simp [overlap.1, fitsRight]⟩
      | .char c :: left, .hole name :: right =>
          simp only [overlapsWithin, Bool.and_eq_true, Bool.or_eq_true] at overlap
          obtain ⟨plain, ends | continues⟩ := overlap
          · obtain ⟨path, fitsLeft, fitsRight⟩ := ih left right ends
            exact ⟨c :: path, by simp [fitsLeft], by simp [plain, fitsRight]⟩
          · obtain ⟨path, fitsLeft, fitsRight⟩ := ih left (.hole name :: right) continues
            exact ⟨c :: path, by simp [fitsLeft], by simp [plain, fitsRight]⟩
      | .hole name :: left, .char d :: right =>
          simp only [overlapsWithin, Bool.and_eq_true, Bool.or_eq_true] at overlap
          obtain ⟨plain, ends | continues⟩ := overlap
          · obtain ⟨path, fitsLeft, fitsRight⟩ := ih left right ends
            exact ⟨d :: path, by simp [plain, fitsLeft], by simp [fitsRight]⟩
          · obtain ⟨path, fitsLeft, fitsRight⟩ := ih (.hole name :: left) right continues
            exact ⟨d :: path, by simp [plain, fitsLeft], by simp [fitsRight]⟩
      | .hole name :: left, .hole other :: right =>
          simp only [overlapsWithin, Bool.or_eq_true] at overlap
          obtain (both | first) | second := overlap
          · obtain ⟨path, fitsLeft, fitsRight⟩ := ih left right both
            exact ⟨'a' :: path, by simp [fitsLeft], by simp [fitsRight]⟩
          · obtain ⟨path, fitsLeft, fitsRight⟩ := ih left (.hole other :: right) first
            exact ⟨'a' :: path, by simp [fitsLeft], by simp [fitsRight]⟩
          · obtain ⟨path, fitsLeft, fitsRight⟩ := ih (.hole name :: left) right second
            exact ⟨'a' :: path, by simp [fitsLeft], by simp [fitsRight]⟩

/-- A shared path is consumed one character at a time. When both holes go on after
that character, the rest of the path is again shared by the same two templates. -/
theorem overlapsWithin_complete (path : List Char) (fuel : Nat) (left right : Template)
    (enough : left.length + right.length ≤ fuel)
    (fitsLeft : accepts left path = true) (fitsRight : accepts right path = true) :
    overlapsWithin fuel left right = true := by
  induction path generalizing fuel left right with
  | nil =>
      rw [accepts_nil_iff] at fitsLeft fitsRight
      subst fitsLeft fitsRight
      cases fuel <;> rfl
  | cons d path ih =>
      match left, right with
      | [], _ => simp at fitsLeft
      | _ :: _, [] => simp at fitsRight
      | first :: left, second :: right =>
          obtain ⟨fuel, rfl⟩ : ∃ smaller, fuel = smaller + 1 := by
            refine ⟨fuel - 1, ?_⟩
            simp only [List.length_cons] at enough
            omega
          simp only [List.length_cons] at enough
          cases first with
          | char c =>
              simp only [accepts, Bool.and_eq_true, beq_iff_eq] at fitsLeft
              obtain ⟨rfl, fitsLeft⟩ := fitsLeft
              cases second with
              | char e =>
                  simp only [accepts, Bool.and_eq_true, beq_iff_eq] at fitsRight
                  simp [fitsRight.1, ih fuel left right (by omega) fitsLeft fitsRight.2]
              | hole name =>
                  simp only [accepts, Bool.and_eq_true, Bool.or_eq_true] at fitsRight
                  obtain ⟨plain, ends | continues⟩ := fitsRight
                  · simp [plain, ih fuel left right (by omega) fitsLeft ends]
                  · simp [plain,
                      ih fuel left (.hole name :: right) (by simp only [List.length_cons]; omega)
                        fitsLeft continues]
          | hole name =>
              simp only [accepts, Bool.and_eq_true, Bool.or_eq_true] at fitsLeft
              obtain ⟨plain, fitsLeft⟩ := fitsLeft
              cases second with
              | char e =>
                  simp only [accepts, Bool.and_eq_true, beq_iff_eq] at fitsRight
                  obtain ⟨rfl, fitsRight⟩ := fitsRight
                  rcases fitsLeft with ends | continues
                  · simp [plain, ih fuel left right (by omega) ends fitsRight]
                  · simp [plain,
                      ih fuel (.hole name :: left) right (by simp only [List.length_cons]; omega)
                        continues fitsRight]
              | hole other =>
                  simp only [accepts, Bool.and_eq_true, Bool.or_eq_true] at fitsRight
                  rcases fitsLeft with leftEnds | leftGoes <;>
                    rcases fitsRight.2 with rightEnds | rightGoes
                  · simp [ih fuel left right (by omega) leftEnds rightEnds]
                  · simp [ih fuel left (.hole other :: right) (by simp only [List.length_cons]; omega)
                        leftEnds rightGoes]
                  · simp [ih fuel (.hole name :: left) right (by simp only [List.length_cons]; omega)
                        leftGoes rightEnds]
                  · exact ih (fuel + 1) (.hole name :: left) (.hole other :: right)
                      (by simp only [List.length_cons]; omega) leftGoes rightGoes

theorem overlaps_iff (left right : Template) :
    overlaps left right = true ↔ ∃ path, accepts left path = true ∧ accepts right path = true :=
  ⟨overlapsWithin_sound _ left right, fun ⟨path, fitsLeft, fitsRight⟩ =>
    overlapsWithin_complete path _ left right (Nat.le_refl _) fitsLeft fitsRight⟩

/-- `general` accepts every path of `template`, and some other path. -/
def MoreGeneral (general template : Template) : Prop :=
  (∀ path, accepts template path = true → accepts general path = true) ∧
    ∃ path, accepts general path = true ∧ accepts template path = false

end AutonomousApi.PathTemplate
