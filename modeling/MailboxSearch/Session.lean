namespace MailboxSearch

structure Session where
  user : Option String := none
  delimiter : Char := '.'
  deriving DecidableEq, Inhabited

end MailboxSearch
