import RoutePattern.Text

/-!
# Quoted text

Inside quotes a backslash makes the next character literal. A quoted text is closed by the first
quote that no backslash precedes, and its value is the body without the escaping backslashes.
-/

namespace RoutePattern.Quoted

/-- The value of a quoted body: each backslash goes and the character after it stays. -/
def unescape : Text → Text
  | [] => []
  | '\\' :: [] => []
  | '\\' :: c :: rest => c :: unescape rest
  | c :: rest => c :: unescape rest

/-- Splits a text at the first unescaped `quote` into the body before it and the text after it. -/
def close (quote : Char) : Text → Option (Text × Text)
  | [] => none
  | c :: rest =>
    if c = quote then some ([], rest)
    else if c = '\\' then
      match rest with
      | [] => none
      | d :: rest => (close quote rest).map fun (body, after) => (c :: d :: body, after)
    else (close quote rest).map fun (body, after) => (c :: body, after)

/-- Closing a quote loses nothing: body, quote and remainder make up the text. -/
theorem close_eq_some {quote : Char} {text body after : Text}
    (h : close quote text = some (body, after)) : text = body ++ quote :: after := by
  fun_induction close quote text generalizing body after with
  | case1 => simp at h
  | case2 rest => simp_all
  | case3 => simp at h
  | case4 d rest hquote ih =>
      simp only [Option.map_eq_some_iff, Prod.exists, Prod.mk.injEq] at h
      obtain ⟨body', after', hclose, rfl, rfl⟩ := h
      simp [ih hclose]
  | case5 c rest hquote hslash ih =>
      simp only [Option.map_eq_some_iff, Prod.exists, Prod.mk.injEq] at h
      obtain ⟨body', after', hclose, rfl, rfl⟩ := h
      simp [ih hclose]

end RoutePattern.Quoted
