import CastLaunch.CommandLine.Opt
import CastLaunch.Limits

/-!
The texts that the command line prints: usage, help and usage errors.
-/

namespace CastLaunch.CommandLine

def usageLines : List String :=
  ["usage: uxlaunch [-h] [-s WxH[@R]] [-o] [-fps N] [-f \x7bH|V|I\x7d] [-r \x7bR|L\x7d]",
   "                [-vs NAME] [-as NAME] [-a] [-p [[tcp|udp] N[,N2[,N3]] ...]]",
   "                [-n NAME] [-m] [-t N] [-d]"]

def optionLines : List String :=
  ["  -h, -v                Display this help and version information",
   "  -s WxH[@R]            Display resolution [refresh rate], default",
   "                        1920x1080[@60]",
   "  -o                    Set mirror \"overscanned\" mode on (not usually needed)",
   "  -fps N                Maximum allowed streaming framerate (max 255), default",
   "                        30",
   "  -f \x7bH|V|I\x7d            Horizontal|Vertical flip, or both=Inversion=rotate 180",
   "                        deg",
   "  -r \x7bR|L\x7d              Rotate 90 degrees Right (cw) or Left (ccw)",
   "  -vs NAME              Video sink, default \"autovideosink\"; \"-vs 0\" streams",
   "                        audio only",
   "  -as NAME              Audio sink, default \"autoaudiosink\"; \"-as 0\" turns",
   "                        audio off",
   "  -a                    Turn audio off, video output only (same as \"-as 0\")",
   "  -p [[tcp|udp] N[,N2[,N3]] ...]",
   "                        Without value: legacy ports TCP 7100:7000:7001 UDP",
   "                        7011:6001:6000. With n: TCP and UDP ports n,n+1,n+2 in",
   "                        range 1024-65535; \"n1,n2\" for n3 = n2+1; \"-p tcp n\" or",
   "                        \"-p udp n\" sets one group only",
   "  -n NAME               Network name of the service",
   "  -m                    Use a random device identifier (for concurrent",
   "                        instances)",
   "  -t N                  Relaunch the service if no connection existed in the",
   "                        last N seconds",
   "  -d                    Toggle debug logging"]

def textOfLines (lines : List String) : String := String.join (lines.map (· ++ "\n"))

def usageText : String := textOfLines usageLines

def helpText : String :=
  "uxlaunch " ++ Limits.version ++ ": launcher for an AirPlay-style mirroring service\n" ++
    textOfLines (usageLines ++ ["", "Launch and supervise an AirPlay-style mirroring service", "",
      "options:"] ++ optionLines)

/-- What a malformed command line prints: the usage, then the error. -/
def UsageError.report (e : UsageError) : String := usageText ++ "uxlaunch: error: " ++ e.message ++ "\n"

end CastLaunch.CommandLine
