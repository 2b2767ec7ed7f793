/-!
# Keys

The keys that a configuration can name. Every key has one canonical name, the one that is written
out; some have a second spelling that is read as well. No two keys share a spelling.
-/

namespace KeyRemap

/-- A key of a keyboard. -/
inductive Key where
  | capsLock | escape | fn | leftShift | leftControl | leftOption | leftCommand | rightControl
  | rightOption | rightCommand | rightShift | a | b | c | d | e | f | g | h | i | j | k | l | m
  | n | o | p | q | r | s | t | u | v | w | x | y | z | digit1 | digit2 | digit3 | digit4
  | digit5 | digit6 | digit7 | digit8 | digit9 | digit0 | returnOrEnter | tab | spacebar
  | deleteOrBackspace | deleteForward | leftArrow | rightArrow | upArrow | downArrow | pageUp
  | pageDown | home | endKey | insert | volumeIncrement | volumeDecrement | mute
  | displayBrightnessIncrement | displayBrightnessDecrement | playOrPause | fastforward
  | rewind | eject | graveAccentAndTilde | hyphen | equalSign | openBracket | closeBracket
  | backslash | semicolon | quote | comma | period | slash | f1 | f2 | f3 | f4 | f5 | f6 | f7
  | f8 | f9 | f10 | f11 | f12 | f13 | f14 | f15 | f16 | f17 | f18 | f19 | f20 | f21 | f22 | f23
  | f24 | keypadNumLock | keypadSlash | keypadAsterisk | keypadHyphen | keypadPlus
  | keypadEnter | keypadPeriod | keypad0 | keypad1 | keypad2 | keypad3 | keypad4 | keypad5
  | keypad6 | keypad7 | keypad8 | keypad9 | keypadEqualSign | printScreen | scrollLock | pause
  | menu | power | leftGui | rightGui | leftAlt | rightAlt
  deriving DecidableEq, Repr, Inhabited

namespace Key

/-- Every key, in the order in which keys are declared. -/
def all : List Key := [
  .capsLock, .escape, .fn, .leftShift, .leftControl, .leftOption, .leftCommand, .rightControl,
  .rightOption, .rightCommand, .rightShift, .a, .b, .c, .d, .e, .f, .g, .h, .i, .j, .k, .l, .m,
  .n, .o, .p, .q, .r, .s, .t, .u, .v, .w, .x, .y, .z, .digit1, .digit2, .digit3, .digit4,
  .digit5, .digit6, .digit7, .digit8, .digit9, .digit0, .returnOrEnter, .tab, .spacebar,
  .deleteOrBackspace, .deleteForward, .leftArrow, .rightArrow, .upArrow, .downArrow, .pageUp,
  .pageDown, .home, .endKey, .insert, .volumeIncrement, .volumeDecrement, .mute,
  .displayBrightnessIncrement, .displayBrightnessDecrement, .playOrPause, .fastforward, .rewind,
  .eject, .graveAccentAndTilde, .hyphen, .equalSign, .openBracket, .closeBracket, .backslash,
  .semicolon, .quote, .comma, .period, .slash, .f1, .f2, .f3, .f4, .f5, .f6, .f7, .f8, .f9, .f10,
  .f11, .f12, .f13, .f14, .f15, .f16, .f17, .f18, .f19, .f20, .f21, .f22, .f23, .f24,
  .keypadNumLock, .keypadSlash, .keypadAsterisk, .keypadHyphen, .keypadPlus, .keypadEnter,
  .keypadPeriod, .keypad0, .keypad1, .keypad2, .keypad3, .keypad4, .keypad5, .keypad6, .keypad7,
  .keypad8, .keypad9, .keypadEqualSign, .printScreen, .scrollLock, .pause, .menu, .power,
  .leftGui, .rightGui, .leftAlt, .rightAlt]

/-- The canonical name of a key. -/
def name : Key → String
  | .capsLock => "caps_lock"
  | .escape => "escape"
  | .fn => "fn"
  | .leftShift => "left_shift"
  | .leftControl => "left_control"
  | .leftOption => "left_option"
  | .leftCommand => "left_command"
  | .rightControl => "right_control"
  | .rightOption => "right_option"
  | .rightCommand => "right_command"
  | .rightShift => "right_shift"
  | .a => "a"
  | .b => "b"
  | .c => "c"
  | .d => "d"
  | .e => "e"
  | .f => "f"
  | .g => "g"
  | .h => "h"
  | .i => "i"
  | .j => "j"
  | .k => "k"
  | .l => "l"
  | .m => "m"
  | .n => "n"
  | .o => "o"
  | .p => "p"
  | .q => "q"
  | .r => "r"
  | .s => "s"
  | .t => "t"
  | .u => "u"
  | .v => "v"
  | .w => "w"
  | .x => "x"
  | .y => "y"
  | .z => "z"
  | .digit1 => "1"
  | .digit2 => "2"
  | .digit3 => "3"
  | .digit4 => "4"
  | .digit5 => "5"
  | .digit6 => "6"
  | .digit7 => "7"
  | .digit8 => "8"
  | .digit9 => "9"
  | .digit0 => "0"
  | .returnOrEnter => "return_or_enter"
  | .tab => "tab"
  | .spacebar => "spacebar"
  | .deleteOrBackspace => "delete_or_backspace"
  | .deleteForward => "delete_forward"
  | .leftArrow => "left_arrow"
  | .rightArrow => "right_arrow"
  | .upArrow => "up_arrow"
  | .downArrow => "down_arrow"
  | .pageUp => "page_up"
  | .pageDown => "page_down"
  | .home => "home"
  | .endKey => "end"
  | .insert => "insert"
  | .volumeIncrement => "volume_increment"
  | .volumeDecrement => "volume_decrement"
  | .mute => "mute"
  | .displayBrightnessIncrement => "display_brightness_increment"
  | .displayBrightnessDecrement => "display_brightness_decrement"
  | .playOrPause => "play_or_pause"
  | .fastforward => "fastforward"
  | .rewind => "rewind"
  | .eject => "eject"
  | .graveAccentAndTilde => "grave_accent_and_tilde"
  | .hyphen => "hyphen"
  | .equalSign => "equal_sign"
  | .openBracket => "open_bracket"
  | .closeBracket => "close_bracket"
  | .backslash => "backslash"
  | .semicolon => "semicolon"
  | .quote => "quote"
  | .comma => "comma"
  | .period => "period"
  | .slash => "slash"
  | .f1 => "f1"
  | .f2 => "f2"
  | .f3 => "f3"
  | .f4 => "f4"
  | .f5 => "f5"
  | .f6 => "f6"
  | .f7 => "f7"
  | .f8 => "f8"
  | .f9 => "f9"
  | .f10 => "f10"
  | .f11 => "f11"
  | .f12 => "f12"
  | .f13 => "f13"
  | .f14 => "f14"
  | .f15 => "f15"
  | .f16 => "f16"
  | .f17 => "f17"
  | .f18 => "f18"
  | .f19 => "f19"
  | .f20 => "f20"
  | .f21 => "f21"
  | .f22 => "f22"
  | .f23 => "f23"
  | .f24 => "f24"
  | .keypadNumLock => "keypad_num_lock"
  | .keypadSlash => "keypad_slash"
  | .keypadAsterisk => "keypad_asterisk"
  | .keypadHyphen => "keypad_hyphen"
  | .keypadPlus => "keypad_plus"
  | .keypadEnter => "keypad_enter"
  | .keypadPeriod => "keypad_period"
  | .keypad0 => "keypad_0"
  | .keypad1 => "keypad_1"
  | .keypad2 => "keypad_2"
  | .keypad3 => "keypad_3"
  | .keypad4 => "keypad_4"
  | .keypad5 => "keypad_5"
  | .keypad6 => "keypad_6"
  | .keypad7 => "keypad_7"
  | .keypad8 => "keypad_8"
  | .keypad9 => "keypad_9"
  | .keypadEqualSign => "keypad_equal_sign"
  | .printScreen => "print_screen"
  | .scrollLock => "scroll_lock"
  | .pause => "pause"
  | .menu => "menu"
  | .power => "power"
  | .leftGui => "left_gui"
  | .rightGui => "right_gui"
  | .leftAlt => "left_alt"
  | .rightAlt => "right_alt"

/-- The second spelling of a key, where it has one. -/
def alias? : Key → Option String
  | .leftShift => some "lshift"
  | .leftControl => some "lctrl"
  | .leftOption => some "lalt"
  | .leftCommand => some "lcmd"
  | .rightControl => some "rctrl"
  | .rightOption => some "ralt"
  | .rightCommand => some "rcmd"
  | .rightShift => some "rshift"
  | .digit1 => some "n1"
  | .digit2 => some "n2"
  | .digit3 => some "n3"
  | .digit4 => some "n4"
  | .digit5 => some "n5"
  | .digit6 => some "n6"
  | .digit7 => some "n7"
  | .digit8 => some "n8"
  | .digit9 => some "n9"
  | .digit0 => some "n0"
  | .returnOrEnter => some "enter"
  | .leftArrow => some "left"
  | .rightArrow => some "right"
  | .upArrow => some "up"
  | .downArrow => some "down"
  | _ => none

/-- Is `text` one of the spellings of `key`? -/
def spelled (key : Key) (text : String) : Bool :=
  key.name == text || key.alias? == some text

/-- The key that `text` spells. At most one key answers, since no spelling is shared. -/
def ofName? (text : String) : Option Key :=
  all.find? (·.spelled text)

end Key

end KeyRemap
