/-!
# Error numbers of the operating system

Reports name an error number by its symbol.  Where two symbols share a number, the one that is listed
here is used.

Symbols go into reasons and are part of what is reported, so that a receipt says the same on systems that
give the same number another wording.  The wording itself is only put into messages for people.  A number
without a symbol, and the absence of a number, are called unknown, so a reason is never empty.

The numbers are those of one operating system.  Which of them are told apart is decided where they are used:
a check tells what is not there from what may not be looked at, and a search for a file tells absence from
every other error.

## Main definitions

* `Errno.name` — the symbol of an error number.
* `Errno.noEntry`, `Errno.accessDenied`, … — the numbers that are told apart.
* `Errno.wording`, `Errno.message` — the wording of an error number.
-/

namespace IntentSpec.Errno

/-- The symbols, by increasing number. -/
def symbols : List (Nat × String) :=
  [(1, "EPERM"), (2, "ENOENT"), (3, "ESRCH"), (4, "EINTR"), (5, "EIO"), (6, "ENXIO"), (7,
   "E2BIG"), (8, "ENOEXEC"), (9, "EBADF"), (10, "ECHILD"), (11, "EAGAIN"), (12, "ENOMEM"), (13,
   "EACCES"), (14, "EFAULT"), (15, "ENOTBLK"), (16, "EBUSY"), (17, "EEXIST"), (18, "EXDEV"), (19,
   "ENODEV"), (20, "ENOTDIR"), (21, "EISDIR"), (22, "EINVAL"), (23, "ENFILE"), (24, "EMFILE"),
   (25, "ENOTTY"), (26, "ETXTBSY"), (27, "EFBIG"), (28, "ENOSPC"), (29, "ESPIPE"), (30, "EROFS"),
   (31, "EMLINK"), (32, "EPIPE"), (33, "EDOM"), (34, "ERANGE"), (35, "EDEADLOCK"), (36,
   "ENAMETOOLONG"), (37, "ENOLCK"), (38, "ENOSYS"), (39, "ENOTEMPTY"), (40, "ELOOP"), (42,
   "ENOMSG"), (43, "EIDRM"), (44, "ECHRNG"), (45, "EL2NSYNC"), (46, "EL3HLT"), (47, "EL3RST"),
   (48, "ELNRNG"), (49, "EUNATCH"), (50, "ENOCSI"), (51, "EL2HLT"), (52, "EBADE"), (53, "EBADR"),
   (54, "EXFULL"), (55, "ENOANO"), (56, "EBADRQC"), (57, "EBADSLT"), (59, "EBFONT"), (60,
   "ENOSTR"), (61, "ENODATA"), (62, "ETIME"), (63, "ENOSR"), (64, "ENONET"), (65, "ENOPKG"), (66,
   "EREMOTE"), (67, "ENOLINK"), (68, "EADV"), (69, "ESRMNT"), (70, "ECOMM"), (71, "EPROTO"), (72,
   "EMULTIHOP"), (73, "EDOTDOT"), (74, "EBADMSG"), (75, "EOVERFLOW"), (76, "ENOTUNIQ"), (77,
   "EBADFD"), (78, "EREMCHG"), (79, "ELIBACC"), (80, "ELIBBAD"), (81, "ELIBSCN"), (82,
   "ELIBMAX"), (83, "ELIBEXEC"), (84, "EILSEQ"), (85, "ERESTART"), (86, "ESTRPIPE"), (87,
   "EUSERS"), (88, "ENOTSOCK"), (89, "EDESTADDRREQ"), (90, "EMSGSIZE"), (91, "EPROTOTYPE"), (92,
   "ENOPROTOOPT"), (93, "EPROTONOSUPPORT"), (94, "ESOCKTNOSUPPORT"), (95, "ENOTSUP"), (96,
   "EPFNOSUPPORT"), (97, "EAFNOSUPPORT"), (98, "EADDRINUSE"), (99, "EADDRNOTAVAIL"), (100,
   "ENETDOWN"), (101, "ENETUNREACH"), (102, "ENETRESET"), (103, "ECONNABORTED"), (104,
   "ECONNRESET"), (105, "ENOBUFS"), (106, "EISCONN"), (107, "ENOTCONN"), (108, "ESHUTDOWN"),
   (109, "ETOOMANYREFS"), (110, "ETIMEDOUT"), (111, "ECONNREFUSED"), (112, "EHOSTDOWN"), (113,
   "EHOSTUNREACH"), (114, "EALREADY"), (115, "EINPROGRESS"), (116, "ESTALE"), (117, "EUCLEAN"),
   (118, "ENOTNAM"), (119, "ENAVAIL"), (120, "EISNAM"), (121, "EREMOTEIO"), (122, "EDQUOT"),
   (123, "ENOMEDIUM"), (124, "EMEDIUMTYPE"), (125, "ECANCELED"), (126, "ENOKEY"), (127,
   "EKEYEXPIRED"), (128, "EKEYREVOKED"), (129, "EKEYREJECTED"), (130, "EOWNERDEAD"), (131,
   "ENOTRECOVERABLE"), (132, "ERFKILL")]

/-- The symbol of an error number; a number without a symbol, or none at all, is unknown. -/
def name : Option Int → String
  | some (.ofNat n) => ((symbols.find? (·.1 == n)).map (·.2)).getD "unknown"
  | _ => "unknown"

/-- There is no such file. -/
def noEntry : Int := 2

/-- A number stands for no open file. -/
def badDescriptor : Int := 9

/-- The access is not permitted. -/
def accessDenied : Int := 13

/-- The file is in use. -/
def busy : Int := 16

/-- There is a file of the name already. -/
def fileExists : Int := 17

/-- A part of a path is no directory. -/
def notDirectory : Int := 20

/-- The file is a directory. -/
def isDirectory : Int := 21

/-- A name is too long. -/
def nameTooLong : Int := 36

/-- There are too many symbolic links on the way. -/
def tooManyLinks : Int := 40

/-- The network cannot be reached. -/
def networkUnreachable : Int := 101

/-- The time for a connection is over. -/
def timedOut : Int := 110

/-- The connection is refused. -/
def connectionRefused : Int := 111

/-- The host cannot be reached. -/
def hostUnreachable : Int := 113

/-- The wordings of the errors that operations on files report. -/
def wordings : List (Int × String) :=
  [(noEntry, "No such file or directory"), (accessDenied, "Permission denied"),
   (busy, "Device or resource busy"), (fileExists, "File exists"),
   (notDirectory, "Not a directory"), (isDirectory, "Is a directory"),
   (nameTooLong, "File name too long")]

/-- The wording of an error number. -/
def wording (code : Int) : String :=
  ((wordings.find? (·.1 == code)).map (·.2)).getD ("Unknown error " ++ toString code)

/-- The wording of an error number together with the number. -/
def message (code : Int) : String := "[Errno " ++ toString code ++ "] " ++ wording code

end IntentSpec.Errno
