import Assay.Text.Raw

/-! # Accounts -/

namespace Assay

structure Account where
  name : String
  (number group : Nat)
  (fullName home : String)
  program : String := "/usr/sbin/nologin"

namespace Account

def all : List Account :=
  [⟨"root", 0, 0, "root", "/root", "/bin/bash"⟩,
    { name := "daemon", number := 1, group := 1, fullName := "daemon", home := "/usr/sbin" },
    { name := "bin", number := 2, group := 2, fullName := "bin", home := "/bin" },
    { name := "sys", number := 3, group := 3, fullName := "sys", home := "/dev" },
    ⟨"sync", 4, 65534, "sync", "/bin", "/bin/sync"⟩,
    { name := "games", number := 5, group := 60, fullName := "games", home := "/usr/games" },
    { name := "man", number := 6, group := 12, fullName := "man", home := "/var/cache/man" },
    { name := "lp", number := 7, group := 7, fullName := "lp", home := "/var/spool/lpd" },
    { name := "mail", number := 8, group := 8, fullName := "mail", home := "/var/mail" },
    { name := "news", number := 9, group := 9, fullName := "news", home := "/var/spool/news" },
    { name := "uucp", number := 10, group := 10, fullName := "uucp", home := "/var/spool/uucp" },
    { name := "proxy", number := 13, group := 13, fullName := "proxy", home := "/bin" },
    { name := "www-data", number := 33, group := 33, fullName := "www-data", home := "/var/www" },
    { name := "backup", number := 34, group := 34, fullName := "backup", home := "/var/backups" },
    { name := "list", number := 38, group := 38, fullName := "Mailing List Manager"
      home := "/var/list" },
    { name := "irc", number := 39, group := 39, fullName := "ircd", home := "/run/ircd" },
    { name := "_apt", number := 42, group := 65534, fullName := "", home := "/nonexistent" },
    { name := "nobody", number := 65534, group := 65534, fullName := "nobody"
      home := "/nonexistent" }]

def groups : List (String × Nat) :=
  [("root", 0), ("daemon", 1), ("bin", 2), ("sys", 3), ("adm", 4), ("tty", 5), ("disk", 6),
    ("lp", 7), ("mail", 8), ("news", 9), ("uucp", 10), ("man", 12), ("proxy", 13), ("kmem", 15),
    ("dialout", 20), ("fax", 21), ("voice", 22), ("cdrom", 24), ("floppy", 25), ("tape", 26),
    ("sudo", 27), ("audio", 29), ("dip", 30), ("www-data", 33), ("backup", 34),
    ("operator", 37), ("list", 38), ("irc", 39), ("src", 40), ("shadow", 42), ("utmp", 43),
    ("video", 44), ("sasl", 45), ("plugdev", 46), ("staff", 50), ("games", 60), ("users", 100),
    ("nogroup", 65534)]

def line (account : Account) : String :=
  s!"{account.name}:x:{account.number}:{account.group}:{account.fullName}:{account.home}:"
    ++ account.program ++ "\n"

def userFile : String := String.join (all.map line)

def groupFile : String := String.join (groups.map fun (name, number) => s!"{name}:x:{number}:\n")

def ofNumber? (number : Nat) : Option Account := all.find? (·.number = number)

end Account

end Assay
