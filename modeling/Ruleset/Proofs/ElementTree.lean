import Ruleset.Xml.Element

/-!
# Building the element tree

The tree builder reads tags one at a time, with a stack of open elements and a slot for the
root. Its specification is a grammar over the tags.

* `Markup tokens elements` — the tokens are the markup of the elements, in order: each is an
  empty-element tag, or a start tag, the markup of its children and an end tag, and the
  content of every tag reads as a name and attributes. End-tag names are not compared here:
  that is the tokenizer's check.
* `ReadSoFar tokens stack root` — the tokens are a prefix that breaks no rule yet: the markup
  of at most one element (the root), then, for each element still open from the outermost
  in, its start tag and the markup of its children so far.
* `Breaks stack root token err` — the token breaks a rule when read with `stack` open and
  `root` attached: its attributes do not read, it closes with nothing open, or it completes a
  second element at the top level.
* `EndsBadly fault stack root err` — how the input ends when the tokens break no rule: the
  tokenizer's fault, else an element still open (the innermost is named), else no element.

Main statements:

* `Element.build_eq_ok_iff` — building succeeds exactly on a prefix that breaks no rule, and
  leaves the open elements and the root of that prefix.
* `Element.build_eq_error_iff` — building fails exactly at a token that breaks a rule after a
  prefix that breaks none, with that token's error.
* `Element.ofTokens_spec` — the tree is answered exactly for the markup of one element, and
  it is that element's tree; otherwise the answer is the earliest violation in stream order.
-/

namespace Ruleset

namespace Xml

/-- The tokens are the markup of the elements, in order. -/
inductive Markup : List Token → List Element → Prop
  | nil : Markup [] []
  | empty {content : List Char} {e : Element} {ts : List Token} {es : List Element} :
      Element.ofContent content = .ok e → Markup ts es → Markup (.empty content :: ts) (e :: es)
  | node {content : List Char} {e : Element} {inner : List Token} {children : List Element}
      {name : String} {ts : List Token} {es : List Element} :
      Element.ofContent content = .ok e → Markup inner children → Markup ts es →
      Markup (.start content :: (inner ++ .close name :: ts)) ({ e with children } :: es)

/-- The frame of an element opened by a tag that read as `e`, with the children so far. -/
def Frame.ofChildren (e : Element) (children : List Element) : Frame :=
  ⟨e.tag, e.attrs, children.reverse⟩

/-- The tokens are a prefix that breaks no rule, leaving `stack` open (innermost first) and
`root` attached. -/
inductive ReadSoFar : List Token → List Frame → Option Element → Prop
  | start : ReadSoFar [] [] none
  | root {ts : List Token} {e : Element} : Markup ts [e] → ReadSoFar ts [] (some e)
  | push {p : List Token} {stack : List Frame} {root : Option Element} {content : List Char}
      {e : Element} {ts : List Token} {children : List Element} :
      ReadSoFar p stack root → Element.ofContent content = .ok e → Markup ts children →
      ReadSoFar (p ++ .start content :: ts) (Frame.ofChildren e children :: stack) root

/-- The token breaks a rule of the markup when read with `stack` open and `root` attached. -/
inductive Breaks : List Frame → Option Element → Token → ReadError → Prop
  /-- A start tag whose attributes do not read. -/
  | badStart {stack : List Frame} {root : Option Element} {content : List Char}
      {err : ReadError} : Element.ofContent content = .error err →
      Breaks stack root (.start content) err
  /-- An empty-element tag whose attributes do not read. -/
  | badEmpty {stack : List Frame} {root : Option Element} {content : List Char}
      {err : ReadError} : Element.ofContent content = .error err →
      Breaks stack root (.empty content) err
  /-- An end tag with no element open. -/
  | closeWithoutOpen {root : Option Element} {name : String} :
      Breaks [] root (.close name) (.malformed .closeWithoutOpen)
  /-- An empty-element tag at the top level, after the root. -/
  | secondEmpty {r e : Element} {content : List Char} : Element.ofContent content = .ok e →
      Breaks [] (some r) (.empty content) (.malformed .secondRoot)
  /-- The end tag of a second element at the top level. -/
  | secondClose {f : Frame} {r : Element} {name : String} :
      Breaks [f] (some r) (.close name) (.malformed .secondRoot)

/-- How the input ends, with `stack` open and `root` attached, after the fault that stopped
the tokens, if any. -/
inductive EndsBadly : Option Error → List Frame → Option Element → ReadError → Prop
  | fault {e : Error} {stack : List Frame} {root : Option Element} :
      EndsBadly (some e) stack root (.markup e)
  | unclosed {f : Frame} {stack : List Frame} {root : Option Element} :
      EndsBadly none (f :: stack) root (.malformed (.neverClosed f.tag))
  | noRoot : EndsBadly none [] none (.malformed .noRoot)

namespace Markup

theorem singleton_empty {content : List Char} {e : Element}
    (h : Element.ofContent content = .ok e) : Markup [.empty content] [e] :=
  .empty h .nil

theorem singleton_node {content : List Char} {e : Element} {inner : List Token}
    {children : List Element} (name : String) (h : Element.ofContent content = .ok e)
    (hinner : Markup inner children) :
    Markup (.start content :: (inner ++ [.close name])) [{ e with children }] :=
  .node h hinner .nil

/-- Markup of two element lists, one after the other, is the markup of both. -/
theorem append {ts us : List Token} {es fs : List Element} (h : Markup ts es)
    (h' : Markup us fs) : Markup (ts ++ us) (es ++ fs) := by
  induction h with
  | nil => exact h'
  | empty hc _ ih => exact .empty hc ih
  | node hc hinner _ _ ih =>
    rw [List.cons_append, List.append_assoc, List.cons_append]
    exact .node hc hinner ih

theorem eq_nil_of_nil {ts : List Token} (h : Markup ts []) : ts = [] := by
  cases h
  rfl

end Markup

namespace Element

/-! ### One token at a time -/

section Steps

variable {stack : List Frame} {root : Option Element}

@[simp] theorem build_nil (stack : List Frame) (root : Option Element) :
    build [] stack root = .ok (stack, root) := rfl

/-- Building runs the tokens one after the other: the second part starts where the first
left off. -/
theorem build_append (p q : List Token) (stack : List Frame) (root : Option Element) :
    build (p ++ q) stack root =
      match build p stack root with
      | .ok (stack, root) => build q stack root
      | .error err => .error err := by
  induction p generalizing stack root with
  | nil => rfl
  | cons x p ih =>
    cases x with
    | start content =>
      simp only [List.cons_append, build]
      split <;> simp [ih]
    | empty content =>
      simp only [List.cons_append, build]
      split <;> simp [ih]
    | close name =>
      cases stack with
      | nil => rfl
      | cons f stack =>
        simp only [List.cons_append, build]
        split <;> simp [ih]

theorem build_cons (x : Token) (rest : List Token) (stack : List Frame) (root : Option Element) :
    build (x :: rest) stack root =
      match build [x] stack root with
      | .ok (stack, root) => build rest stack root
      | .error err => .error err :=
  build_append [x] rest stack root

/-- A token that breaks a rule fails. -/
theorem build_singleton_of_breaks {x : Token} {err : ReadError} (h : Breaks stack root x err) :
    build [x] stack root = .error err := by
  cases h with
  | badStart hc => simp [build, hc]
  | badEmpty hc => simp [build, hc, bind, Except.bind]
  | closeWithoutOpen => rfl
  | secondEmpty hc => simp [build, hc, bind, Except.bind, attach]
  | secondClose => rfl

/-- A token that fails breaks a rule. -/
theorem breaks_of_build_singleton {x : Token} {err : ReadError}
    (h : build [x] stack root = .error err) : Breaks stack root x err := by
  cases x with
  | start content =>
    cases hc : ofContent content with
    | error e =>
      simp only [build, hc, Except.error.injEq] at h
      exact h ▸ .badStart hc
    | ok e => simp [build, hc] at h
  | empty content =>
    cases hc : ofContent content with
    | error e =>
      simp only [build, hc, bind, Except.bind, Except.error.injEq] at h
      exact h ▸ .badEmpty hc
    | ok e =>
      -- a finished element always attaches, except as a second root
      rcases stack with _ | ⟨f, stack⟩ <;> rcases root with _ | r <;>
        simp [build, hc, bind, Except.bind, attach] at h
      exact h ▸ .secondEmpty hc
  | close name =>
    rcases stack with _ | ⟨f, _ | ⟨g, stack⟩⟩
    · simp only [build, Except.error.injEq] at h
      exact h ▸ .closeWithoutOpen
    · rcases root with _ | r <;> simp [build, attach] at h
      exact h ▸ .secondClose
    · simp [build, attach] at h

/-- What a token that breaks no rule does: a start tag opens an element with no children; an
empty-element tag, or an end tag closing the innermost open element, attaches a completed
element. -/
theorem build_singleton_eq_ok {x : Token} {stack' : List Frame} {root' : Option Element}
    (h : build [x] stack root = .ok (stack', root')) :
    (∃ content e, x = .start content ∧ ofContent content = .ok e ∧
      stack' = ⟨e.tag, e.attrs, []⟩ :: stack ∧ root' = root) ∨
    (∃ content e, x = .empty content ∧ ofContent content = .ok e ∧
      attach e stack root = .ok (stack', root')) ∨
    (∃ name f s, x = .close name ∧ stack = f :: s ∧
      attach ⟨f.tag, f.attrs, f.childrenRev.reverse⟩ s root = .ok (stack', root')) := by
  cases x with
  | start content =>
    cases hc : ofContent content with
    | error err => simp [build, hc] at h
    | ok e =>
      simp only [build, hc, Except.ok.injEq, Prod.mk.injEq] at h
      exact .inl ⟨content, e, rfl, hc, h.1.symm, h.2.symm⟩
  | empty content =>
    cases hc : ofContent content with
    | error err => simp [build, hc, bind, Except.bind] at h
    | ok e =>
      refine .inr (.inl ⟨content, e, rfl, hc, ?_⟩)
      cases ha : attach e stack root with
      | ok st =>
        obtain ⟨s, r⟩ := st
        simpa [build, hc, bind, Except.bind, ha] using h
      | error err => simp [build, hc, bind, Except.bind, ha] at h
  | close name =>
    cases stack with
    | nil => simp [build] at h
    | cons f s =>
      refine .inr (.inr ⟨name, f, s, rfl, rfl, ?_⟩)
      cases ha : attach ⟨f.tag, f.attrs, f.childrenRev.reverse⟩ s root with
      | ok st =>
        obtain ⟨s', r⟩ := st
        simpa [build, ha] using h
      | error err => simp [build, ha] at h

/-- A single token fails exactly when it breaks a rule. -/
theorem build_singleton_eq_error_iff (x : Token) (err : ReadError) :
    build [x] stack root = .error err ↔ Breaks stack root x err :=
  ⟨breaks_of_build_singleton, build_singleton_of_breaks⟩

end Steps

/-! ### What the markup of an element does -/

/-- Inside an open element, the markup of some elements adds them as its next children. -/
theorem build_markup_inside {ts : List Token} {es : List Element} (h : Markup ts es) :
    ∀ (f : Frame) (stack : List Frame) (root : Option Element) (rest : List Token),
      build (ts ++ rest) (f :: stack) root =
        build rest ({ f with childrenRev := es.reverse ++ f.childrenRev } :: stack) root := by
  induction h with
  | nil => intro f stack root rest; rfl
  | @empty content e ts es hc _ ih =>
    intro f stack root rest
    simp only [List.cons_append, build, hc, bind, Except.bind, attach, ih]
    simp
  | @node content e inner children name ts es hc _ _ ihinner ih =>
    intro f stack root rest
    simp only [List.cons_append, build, hc, List.append_assoc]
    rw [ihinner]
    simp only [List.append_nil, build, attach, List.reverse_reverse, ih]
    obtain ⟨tag, attrs, _⟩ := e
    simp

/-- At the top level, the markup of one element attaches it as the root, or fails as a second
root. -/
theorem build_markup_top {ts : List Token} {e : Element} (h : Markup ts [e])
    (root : Option Element) (rest : List Token) :
    build (ts ++ rest) [] root =
      match root with
      | none => build rest [] (some e)
      | some _ => .error (.malformed .secondRoot) := by
  cases h with
  | empty hc htail =>
    cases Markup.eq_nil_of_nil htail
    cases root <;> simp [build, hc, bind, Except.bind, attach]
  | node hc hinner htail =>
    cases Markup.eq_nil_of_nil htail
    simp only [List.cons_append, List.append_assoc, build, hc]
    rw [build_markup_inside hinner]
    cases root <;> simp [build, attach]

end Element

/-! ### Prefixes that break no rule -/

namespace ReadSoFar

theorem eq_nil {p : List Token} (h : ReadSoFar p [] none) : p = [] := by
  cases h
  rfl

/-- An open element was opened by its start tag, after a prefix that breaks no rule, and its
children so far are the markup that follows. -/
theorem of_cons {p : List Token} {f : Frame} {stack : List Frame} {root : Option Element}
    (h : ReadSoFar p (f :: stack) root) :
    ∃ p₀ content e ts children, p = p₀ ++ .start content :: ts ∧
      Element.ofContent content = .ok e ∧ Markup ts children ∧
      f = Frame.ofChildren e children ∧ ReadSoFar p₀ stack root := by
  cases h with
  | push hp hc hts => exact ⟨_, _, _, _, _, rfl, hc, hts, rfl, hp⟩

theorem markup_of_root {ts : List Token} {e : Element} (h : ReadSoFar ts [] (some e)) :
    Markup ts [e] := by
  cases h with
  | root h => exact h

/-- A child completed inside the innermost open element joins its children. -/
theorem push_child {p ts : List Token} {f : Frame} {stack : List Frame}
    {root : Option Element} {e : Element} (h : ReadSoFar p (f :: stack) root)
    (hts : Markup ts [e]) :
    ReadSoFar (p ++ ts) ({ f with childrenRev := e :: f.childrenRev } :: stack) root := by
  obtain ⟨p₀, content, e₀, ts₀, children, rfl, hc, hts₀, rfl, hp₀⟩ := h.of_cons
  have hmk := ReadSoFar.push hp₀ hc (hts₀.append hts)
  simpa [Frame.ofChildren] using hmk

/-- A completed element whose markup follows a prefix that breaks no rule, once attached to
the innermost open element or as the root, leaves a longer such prefix. -/
theorem attach {p ts : List Token} {stack stack' : List Frame} {root root' : Option Element}
    {e : Element} (h : ReadSoFar p stack root) (hts : Markup ts [e])
    (ha : Element.attach e stack root = .ok (stack', root')) :
    ReadSoFar (p ++ ts) stack' root' := by
  cases stack with
  | cons f stack =>
    cases ha
    exact h.push_child hts
  | nil =>
    cases root with
    | none =>
      cases ha
      rw [h.eq_nil]
      exact .root hts
    | some r => cases ha

/-- Reading one more token that breaks no rule keeps the prefix free of violations. -/
theorem step {p : List Token} {stack stack' : List Frame} {root root' : Option Element}
    {x : Token} (h : ReadSoFar p stack root)
    (hx : Element.build [x] stack root = .ok (stack', root')) :
    ReadSoFar (p ++ [x]) stack' root' := by
  rcases Element.build_singleton_eq_ok hx with
    ⟨content, e, rfl, hc, rfl, rfl⟩ | ⟨content, e, rfl, hc, ha⟩ | ⟨name, f, s, rfl, rfl, ha⟩
  · exact .push h hc .nil
  · exact h.attach (Markup.singleton_empty hc) ha
  · obtain ⟨p₀, content, e, ts, children, rfl, hc, hts, rfl, hp₀⟩ := h.of_cons
    -- the closed element is the one its start tag opened, with the children read since
    have hclosed := Markup.singleton_node name hc hts
    have ha' : Element.attach { e with children } s root = .ok (stack', root') := by
      simpa [Frame.ofChildren] using ha
    simpa using hp₀.attach hclosed ha'

end ReadSoFar

namespace Element

/-- A prefix that breaks no rule builds to the open elements and the root it leaves. -/
theorem build_of_reading {p : List Token} {stack : List Frame} {root : Option Element}
    (h : ReadSoFar p stack root) : build p [] none = .ok (stack, root) := by
  induction h with
  | start => rfl
  | root h =>
    simpa using build_markup_top h none []
  | @push p stack root content e ts children _ hc hts ih =>
    rw [build_append, ih]
    simp only [build, hc]
    have hinside := build_markup_inside hts ⟨e.tag, e.attrs, []⟩ stack root []
    simpa [Frame.ofChildren] using hinside

/-- Building from a prefix that breaks no rule: a success leaves a longer such prefix. -/
theorem reading_of_build {ts : List Token} :
    ∀ {p : List Token} {stack stack' : List Frame} {root root' : Option Element},
      ReadSoFar p stack root → build ts stack root = .ok (stack', root') →
      ReadSoFar (p ++ ts) stack' root' := by
  induction ts with
  | nil =>
    intro p stack stack' root root' h hb
    cases hb
    simpa using h
  | cons x rest ih =>
    intro p stack stack' root root' h hb
    rw [build_cons] at hb
    cases hx : build [x] stack root with
    | ok st =>
      rw [hx] at hb
      simpa using ih (h.step hx) hb
    | error e =>
      rw [hx] at hb
      cases hb

/-- Building from a prefix that breaks no rule: a failure is at a token that breaks a rule,
after a longer prefix that breaks none. -/
theorem breaks_of_build {ts : List Token} :
    ∀ {p : List Token} {stack : List Frame} {root : Option Element} {err : ReadError},
      ReadSoFar p stack root → build ts stack root = .error err →
      ∃ q x rest stack' root', ts = q ++ x :: rest ∧ ReadSoFar (p ++ q) stack' root' ∧
        Breaks stack' root' x err := by
  induction ts with
  | nil =>
    intro p stack root err _ hb
    cases hb
  | cons x rest ih =>
    intro p stack root err h hb
    rw [build_cons] at hb
    cases hx : build [x] stack root with
    | ok st =>
      rw [hx] at hb
      obtain ⟨q, y, rest', s', r', rfl, hq, hy⟩ := ih (h.step hx) hb
      exact ⟨x :: q, y, rest', s', r', rfl, by simpa using hq, hy⟩
    | error e =>
      rw [hx] at hb
      cases hb
      exact ⟨[], x, rest, stack, root, rfl, by simpa using h,
        (build_singleton_eq_error_iff x _).1 hx⟩

/-- **Building succeeds exactly on a prefix that breaks no rule**, leaving its open elements
and its root. -/
theorem build_eq_ok_iff (ts : List Token) (stack : List Frame) (root : Option Element) :
    build ts [] none = .ok (stack, root) ↔ ReadSoFar ts stack root := by
  constructor
  · intro h
    simpa using reading_of_build ReadSoFar.start h
  · exact build_of_reading

/-- **Building fails exactly at a token that breaks a rule** after a prefix that breaks
none, with that token's error. -/
theorem build_eq_error_iff (ts : List Token) (err : ReadError) :
    build ts [] none = .error err ↔
      ∃ p x rest stack root, ts = p ++ x :: rest ∧ ReadSoFar p stack root ∧
        Breaks stack root x err := by
  constructor
  · intro h
    simpa using breaks_of_build ReadSoFar.start h
  · rintro ⟨p, x, rest, stack, root, rfl, hp, hx⟩
    rw [build_append, build_of_reading hp]
    dsimp only
    rw [build_cons, (build_singleton_eq_error_iff x err).2 hx]

/-- The end of the input, after the tokens built to `stack` and `root`: the tree is the
root, when there is no fault and nothing is left open. -/
theorem ofTokens_eq_ok_of_build {ts : List Token} {fault : Option Error} {stack : List Frame}
    {root : Option Element} (h : build ts [] none = .ok (stack, root)) (r : Element) :
    ofTokens ts fault = .ok r ↔ fault = none ∧ stack = [] ∧ root = some r := by
  simp only [ofTokens, h]
  rcases fault with _ | e
  · rcases stack with _ | ⟨f, stack⟩
    · rcases root with _ | r'
      · simp
      · simp
    · simp
  · simp

/-- The end of the input, after the tokens built to `stack` and `root`: the error is how the
input ends. -/
theorem ofTokens_eq_error_of_build {ts : List Token} {fault : Option Error}
    {stack : List Frame} {root : Option Element} (h : build ts [] none = .ok (stack, root))
    (err : ReadError) : ofTokens ts fault = .error err ↔ EndsBadly fault stack root err := by
  simp only [ofTokens, h]
  constructor
  · intro hend
    rcases fault with _ | e
    · rcases stack with _ | ⟨f, stack⟩
      · rcases root with _ | r
        · cases hend
          exact .noRoot
        · cases hend
      · cases hend
        exact .unclosed
    · cases hend
      exact .fault
  · rintro (_ | _ | _) <;> rfl

/-- **The tree of a token list.** It is answered exactly when there is no fault and the
tokens are the markup of one element, and it is that element. Otherwise the answer is the
earliest violation in stream order: a token that breaks a rule after a prefix that breaks
none, or, when no token breaks one, the fault, else the innermost element left open, else
the absence of any element. -/
theorem ofTokens_spec (tokens : List Token) (fault : Option Error) :
    (∀ root, ofTokens tokens fault = .ok root ↔ fault = none ∧ Markup tokens [root]) ∧
    (∀ err, ofTokens tokens fault = .error err ↔
      (∃ p x rest stack root, tokens = p ++ x :: rest ∧ ReadSoFar p stack root ∧
        Breaks stack root x err) ∨
      (∃ stack root, ReadSoFar tokens stack root ∧ EndsBadly fault stack root err)) := by
  cases hb : build tokens [] none with
  | error e =>
    have hof : ofTokens tokens fault = .error e := by simp [ofTokens, hb]
    -- the whole input is no prefix that breaks no rule, so only a violating token answers
    have hnone : ∀ stack root, ¬ ReadSoFar tokens stack root := fun stack root h => by
      simp [build_of_reading h] at hb
    refine ⟨fun r => ?_, fun err => ?_⟩
    · simp only [hof, reduceCtorEq, false_iff, not_and]
      intro _ hm
      exact hnone _ _ (.root hm)
    · rw [hof, ← build_eq_error_iff, hb]
      simp [hnone]
  | ok st =>
    obtain ⟨stack, root⟩ := st
    have hread := (build_eq_ok_iff tokens stack root).1 hb
    refine ⟨fun r => ?_, fun err => ?_⟩
    · rw [ofTokens_eq_ok_of_build hb]
      constructor
      · rintro ⟨rfl, rfl, rfl⟩
        exact ⟨rfl, hread.markup_of_root⟩
      · rintro ⟨rfl, hm⟩
        -- the whole input is the markup of one element, so it builds to that root alone
        have hroot := (build_eq_ok_iff tokens [] (some r)).2 (.root hm)
        rw [hb] at hroot
        cases hroot
        exact ⟨rfl, rfl, rfl⟩
    · rw [ofTokens_eq_error_of_build hb, ← build_eq_error_iff, hb]
      constructor
      · intro h
        exact .inr ⟨stack, root, hread, h⟩
      · intro h
        rcases h with h | ⟨stack', root', hread', hend⟩
        · cases h
        · rw [build_of_reading hread'] at hb
          cases hb
          exact hend

end Element

end Xml

end Ruleset
