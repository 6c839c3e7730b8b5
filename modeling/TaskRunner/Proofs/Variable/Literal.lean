import TaskRunner.Proofs.Variable.Substitution
/- # TaskRunner.Proofs.Variable.Literal -- any text can be written literally

A text in which each dollar sign is doubled is read pair by pair: at the first sign of a pair the
escape begins, and at any other character no mark does.  So it refers to nothing, and an expansion
gives the text before the doubling back (`Table.expands_escape`).

It does so wherever the doubled text stands, in a text that is substituted or in the value of a name
that is referred to.  A value is expanded once, where its reference is, and what comes out of it is
not read again. -/

namespace TaskRunner.Variable
set_option autoImplicit false

/-- A text with each dollar sign doubled. -/
def escape (text : String) : String :=
  String.ofList (text.toList.flatMap fun c => if c = '$' then ['$', '$'] else [c])

namespace Token

/-- The token that stands for a character and nothing else. -/
def literal (c : Char) : Token := if c = '$' then dollar else char c

/-- Marks begin with a dollar sign. -/
theorem eq_dollar_of_begins {token : Token} (mark : token.IsMark) {c : Char} {rest : List Char}
    (begins : token.lexeme <+: c :: rest) : c = '$' := by
  cases token with
  | char _ => cases mark
  | dollar => exact (List.cons_prefix_cons.1 begins).1.symm
  | reference bracket name => exact (List.cons_prefix_cons.1 begins).1.symm

/-- A doubled text is read pair by pair. -/
theorem scan_literals (text : List Char) :
    scan (text.flatMap fun c => if c = '$' then ['$', '$'] else [c]) = text.map literal := by
  induction text with
  | nil => rw [List.flatMap_nil, scan, List.map_nil]
  | cons c text ih =>
    rw [List.flatMap_cons, List.map_cons, ← ih, literal]
    split
    · exact scan_lexeme_append (show dollar.IsMark from trivial) _
    · next other =>
      exact scan_of_plain fun token mark begins => other (eq_dollar_of_begins mark begins)

theorem scan_escape (text : String) : scan (escape text).toList = text.toList.map literal := by
  rw [escape, String.toList_ofList, scan_literals]

end Token

/-- A doubled text refers to nothing. -/
theorem references_escape (text : String) : references (escape text) = [] := by
  rw [references, Token.scan_escape, List.filterMap_eq_nil_iff]
  intro token member
  obtain ⟨c, -, rfl⟩ := List.mem_map.1 member
  unfold Token.literal
  split <;> rfl

namespace Table

variable {table : Table} {text out : String}

/-- A text comes to what its tokens come to, if all chains from it are sound. -/
theorem substitute_of_expands (sound : ∀ names, table.Chain text names → table.Sound names)
    (expands : table.Expands (Token.scan text.toList) out.toList) :
    table.substitute text = .ok out := by
  obtain ⟨result, done⟩ := ok_iff_forall_chain.2 sound
  have same : result = out := String.toList_inj.1 ((expands_of_expand done).unique expands)
  rw [done, same]

theorem not_chain_of_references_eq_nil (none : references text = []) (names : List String) :
    ¬ table.Chain text names := by
  intro chain
  cases chain with
  | single refers => simp [none] at refers
  | cons refers => simp [none] at refers

/-- A doubled text comes to the text. -/
theorem expands_escape (table : Table) (text : String) :
    table.Expands (Token.scan (escape text).toList) text.toList := by
  rw [Token.scan_escape]
  induction text.toList with
  | nil => exact .nil
  | cons c rest ih =>
    rw [List.map_cons, Token.literal]
    split
    · next same => exact same ▸ .dollar ih
    · exact .char ih

/-- A reference to a name that holds a doubled text comes to the text, in either kind of bracket. -/
theorem substitute_reference {name : String} (named : isName name.toList = true)
    (found : table.get? name = some (.scalar (escape text))) (bracket : Bracket) :
    table.substitute (String.ofList (Token.reference bracket name).lexeme) = .ok text := by
  have mark : (Token.reference bracket name).IsMark := named
  have read : Token.scan (Token.reference bracket name).lexeme = [.reference bracket name] := by
    have alone := Token.scan_lexeme_append mark []
    rwa [List.append_nil, Token.scan] at alone
  have refers : references (String.ofList (Token.reference bracket name).lexeme) = [name] := by
    rw [references, String.toList_ofList, read]
    rfl
  refine substitute_of_expands (fun names chain => ?_) ?_
  · cases chain with
    | single member =>
      obtain rfl := List.mem_singleton.1 (refers ▸ member)
      exact ⟨by simp [found], List.pairwise_singleton _ _, by simp [maxDepth]⟩
    | @cons _ _ value _ member held chain =>
      obtain rfl := List.mem_singleton.1 (refers ▸ member)
      obtain rfl := Option.some.inj (found.symm.trans held)
      exact absurd chain (not_chain_of_references_eq_nil (references_escape text) _)
  · rw [String.toList_ofList, read, ← List.append_nil text.toList]
    exact .reference found (table.expands_escape text) .nil

/-- **Any text can be written literally**: with its dollar signs doubled it is substituted by
itself, as it stands and as the value of a name that is referred to. -/
theorem substitute_escape (table : Table) (text : String) :
    table.substitute (escape text) = .ok text ∧
      ∀ name, isName name.toList = true → table.get? name = some (.scalar (escape text)) →
        table.substitute ("$(" ++ name ++ ")") = .ok text ∧
          table.substitute ("$\x7b" ++ name ++ "\x7d") = .ok text := by
  refine ⟨substitute_of_expands (fun names chain => ?_) (table.expands_escape text),
    fun name named found => ?_⟩
  · exact absurd chain (not_chain_of_references_eq_nil (references_escape text) names)
  · have spelt : ∀ bracket : Bracket, String.ofList (Token.reference bracket name).lexeme =
        String.ofList ['$', bracket.opening] ++ name ++ String.ofList [bracket.closing] :=
      fun bracket => String.toList_inj.1 (by simp [Token.lexeme])
    have round := substitute_reference named found .round
    have curly := substitute_reference named found .curly
    rw [spelt] at round curly
    exact ⟨round, curly⟩

/-- A name that holds, in doubled form, a text that looks like a reference to it. -/
def mirror : Table := empty.define "SELF" (.scalar (escape "$(SELF)$$$\x7bSELF"))

theorem substitute_escape_mirror :
    mirror.substitute "$$(SELF)$$$$$$\x7bSELF" = .ok "$(SELF)$$$\x7bSELF" ∧
      isName "SELF".toList = true ∧
      mirror.get? "SELF" = some (.scalar (escape "$(SELF)$$$\x7bSELF")) ∧
      mirror.substitute ("$(" ++ "SELF" ++ ")") = .ok "$(SELF)$$$\x7bSELF" ∧
      mirror.substitute ("$\x7b" ++ "SELF" ++ "\x7d") = .ok "$(SELF)$$$\x7bSELF" := by
  have doubled : escape "$(SELF)$$$\x7bSELF" = "$$(SELF)$$$$$$\x7bSELF" := by decide +kernel
  have named : isName "SELF".toList = true := by decide
  have found : mirror.get? "SELF" = some (.scalar (escape "$(SELF)$$$\x7bSELF")) := by
    rw [mirror, get?_define, if_pos rfl]
  obtain ⟨literally, referred⟩ := substitute_escape mirror "$(SELF)$$$\x7bSELF"
  exact ⟨doubled ▸ literally, named, found, referred _ named found⟩

end Table
end TaskRunner.Variable
