namespace TermBridge.Caret

def ofLow (n : Nat) : List Char :=
  if n < 32 then ['^', Char.ofNat (n + 64)]
  else if n < 127 then [Char.ofNat n]
  else ['^', '?']

def visible (c : Char) : List Char :=
  let n := c.toNat
  if n < 128 then ofLow n else 'M' :: '-' :: ofLow (n - 128)

end TermBridge.Caret
