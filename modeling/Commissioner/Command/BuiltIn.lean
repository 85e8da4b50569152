import Commissioner.Client.Work

/-!
# The built-in commands

The table of commands that the client starts with, in the order in which help
lists them.
-/

set_option autoImplicit false

namespace Commissioner

/-- The built-in commands. -/
def Registry.builtIn : Registry Action :=
  .ofList
    [("help", .leaf "Display help and return." .help),
      ("hello", .leaf "Send round trip \"Hello world!\" message." .hello),
      ("commission", .leaf "Update the connected device with current dataset." .commission),
      ("thread",
        .group "Manipulate state of the Thread interface of the connected device."
          (.ofList
            [("start", .leaf "Enable thread interface." .threadStart),
              ("stop", .leaf "Disable thread interface." .threadStop)])),
      ("scan", .leaf "Perform scan for TCAT devices." .scan),
      ("wifi",
        .group "Manage Wi-Fi network connection for TBR."
          (.ofList
            [("scan",
                .leaf "Find available Wi-Fi access points and connect to one of them." .wifiScan),
              ("status", .leaf "Get Wi-Fi connection status for TBR." .wifiStatus)])),
      ("tbr", .group "Manage TBR." (.ofList [("reboot", .leaf "Reboot the TBR." .reboot)])),
      ("dataset",
        .group "View and manipulate the active dataset."
          (.ofList
            [("print", .leaf "Print the active dataset as hex." .datasetPrint),
              ("set", .leaf "Replace the active dataset with <hex>." .datasetSet),
              ("reset", .leaf "Restore the built-in default dataset." .datasetReset)])),
      ("exit", .leaf "Close the connection and quit." .exit)]

end Commissioner
